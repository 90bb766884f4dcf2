import Gazetteer.Proofs.Index.OwnValues
import Mathlib.Data.List.Basic

/-!
# Typing on narrows the result

Numbers and names are looked for by their beginnings, so that more of them asks for more. Whatever
strategy the filled slots call for, a document matches its plan exactly if it meets the clause of
every slot, where a slot that is not filled wants nothing (`Slots.planned_matches_iff`). So the
nineteen strategies need one comparison, slot by slot: **a longer value has terms that the terms of
its beginning begin**, and what longer terms begin shorter ones begin too
(`Clause.Matches.of_prefix`).

Exactly a name, a type and a suburb lead to the one strategy that looks for the name nearly. There a
longer name may be near to what a shorter one is not, and nothing is said of it here.
-/

namespace Gazetteer

open Index

variable {d : Document}

/-! ## Clauses -/

namespace Clause

variable {clause later : Clause}

/-- **What meets a longer value meets its beginning.** The terms of the beginning begin terms of the
longer value, and what those begin they begin as well. -/
theorem Matches.of_prefix (h : later.Matches d) (hfield : later.field = clause.field)
    (hmode : clause.mode = .leading) (hmode' : later.mode = .leading)
    (hvalue : clause.value.toList <+: later.value.toList) : clause.Matches d := by
  intro wanted hwanted
  obtain ⟨onward, honward, hbegins⟩ := exists_term_of_prefix hvalue wanted hwanted
  obtain ⟨term, hterm, hmeets⟩ := h onward honward
  rw [hmode'] at hmeets
  rw [hmode, ← hfield]
  exact ⟨term, hterm, hbegins.trans hmeets⟩

/-- A clause is still met if its value is empty or the clause has not changed. -/
theorem Matches.of_eq (h : later.Matches d) (hclause : clause.value = "" ∨ later = clause) :
    clause.Matches d := by
  rcases hclause with hempty | rfl
  · exact matches_of_value_eq_empty hempty d
  · exact h

/-- The weight of a clause does not matter for what meets it. -/
theorem matches_boosted_iff (clause : Clause) (boost : Score) :
    (clause.boosted boost).Matches d ↔ clause.Matches d :=
  Iff.rfl

/-- A clause that is asked for only if it has a value is met whether or not it is asked for. -/
theorem forall_mem_filled_iff (clause : Clause) :
    (∀ asked ∈ if clause.value != "" then [clause] else [], asked.Matches d) ↔
      clause.Matches d := by
  by_cases hempty : clause.value = ""
  · simp [hempty, clause.matches_of_value_eq_empty hempty]
  · simp [hempty]

end Clause

/-! ## Strategies -/

/-- The slots that are filled in a query of exactly a name, a type and a suburb. -/
def Presence.nameTypeSuburb : Presence :=
  ⟨false, false, true, true, true⟩

/-- **Every strategy but one asks for what is filled**, in the way of the composite one. They differ
in how much their clauses weigh, which does not matter for what matches. -/
theorem Strategy.forall_mem_clauses_iff {s : Slots} (h : s.presence ≠ .nameTypeSuburb) :
    (∀ clause ∈ (select s.presence).clauses s, clause.Matches d) ↔
      ∀ clause ∈ filledClauses s, clause.Matches d := by
  have hstrong : (strongNumberClause s).Matches d ↔ (numberClause s).Matches d :=
    Clause.matches_boosted_iff _ _
  rcases hpresence : s.presence with ⟨flat, number, name, streetType, suburb⟩
  rw [hpresence] at h
  revert h
  cases flat <;> cases number <;> cases name <;> cases streetType <;> cases suburb <;>
    simp [select, clauses, filledClauses, hpresence, hstrong, Presence.nameTypeSuburb]

/-- **A document matches the plan of some slots** exactly if it meets the clause of each. Two plans
can be compared by this without asking which strategies they came from. -/
theorem Slots.planned_matches_iff {s : Slots} (h : s.presence ≠ .nameTypeSuburb) :
    s.planned.plan.Matches d ↔
      (Strategy.flatClause s).Matches d ∧ (Strategy.numberClause s).Matches d ∧
        (Strategy.nameClause s).Matches d ∧ (Strategy.typeClause s).Matches d ∧
        (Strategy.suburbClause s).Matches d := by
  refine Plan.matches_ofClauses_iff.trans ((Strategy.forall_mem_clauses_iff h).trans ?_)
  simp only [Strategy.filledClauses, List.forall_mem_append, and_assoc]
  have hnumber : (Strategy.strongNumberClause s).Matches d ↔ (Strategy.numberClause s).Matches d :=
    Clause.matches_boosted_iff _ _
  rw [← hnumber]
  exact and_congr (Clause.forall_mem_filled_iff (Strategy.flatClause s)) <|
    and_congr (Clause.forall_mem_filled_iff (Strategy.strongNumberClause s)) <|
    and_congr (Clause.forall_mem_filled_iff (Strategy.nameClause s)) <|
    and_congr (Clause.forall_mem_filled_iff (Strategy.typeClause s)) <|
    Clause.forall_mem_filled_iff (Strategy.suburbClause s)

/-! ## Typing on -/

/-- **Slots after some more typing**: the numbers and the name have gone on, or are as they were,
and a type and a suburb are still the same if they were there before. -/
structure Slots.TypedOn (before after : Slots) : Prop where
  flat : before.flat.toList <+: after.flat.toList
  number : before.number.toList <+: after.number.toList
  name : before.name.toList <+: after.name.toList
  streetType : before.streetType = "" ∨ after.streetType = before.streetType
  suburb : before.suburb = "" ∨ after.suburb = before.suburb

/-- **What matches after more typing matched before**, slot by slot. -/
theorem Slots.TypedOn.matches_before {before after : Slots} (h : before.TypedOn after)
    (hbefore : before.presence ≠ .nameTypeSuburb) (hafter : after.presence ≠ .nameTypeSuburb)
    (hmatches : after.planned.plan.Matches d) : before.planned.plan.Matches d := by
  obtain ⟨hflat, hnumber, hname, htype, hsuburb⟩ := (planned_matches_iff hafter).mp hmatches
  exact (planned_matches_iff hbefore).mpr
    ⟨hflat.of_prefix rfl rfl rfl h.flat, hnumber.of_prefix rfl rfl rfl h.number,
      hname.of_prefix rfl rfl rfl h.name,
      htype.of_eq (h.streetType.imp_right fun hsame => congrArg (Clause.near .streetType) hsame),
      hsuburb.of_eq (h.suburb.imp_right fun hsame => congrArg (Clause.near .suburb) hsame)⟩

/-! ## What an index finds -/

namespace AddressIndex

/-- **Typing on only narrows the result.** Of every index, the documents that match after more
typing matched before: those found are among those that were found, in the same order, and a search
that may return the whole index has returned every record that a later one returns.

The numbers and the name may each go on by any characters, and a type and a suburb may be filled
where there were none. The one exception is a name with a type and a suburb and nothing else: there
the name is asked for nearly and not by its beginning, so that typing on may win what did not match
before. Neither of the two slots may be of this kind. -/
theorem typing_on_narrows (index : AddressIndex) {before after : Slots} (h : before.TypedOn after)
    (hbefore : before.presence ≠ .nameTypeSuburb) (hafter : after.presence ≠ .nameTypeSuburb) :
    (∀ d : Document, after.planned.plan.Matches d → before.planned.plan.Matches d) ∧
    ((index.scored after.planned.plan).map Prod.snd).Sublist
      ((index.scored before.planned.plan).map Prod.snd) ∧
    ∀ limit limit', index.size ≤ limit →
      ∀ hit ∈ index.search after.planned.plan after.planned.sort limit',
        ∃ earlier ∈ index.search before.planned.plan before.planned.sort limit,
          earlier.record = hit.record := by
  have hmatches : ∀ d : Document, after.planned.plan.Matches d → before.planned.plan.Matches d :=
    fun d => h.matches_before hbefore hafter
  refine ⟨hmatches, ?_, ?_⟩
  · rw [map_snd_scored, map_snd_scored]
    refine List.monotone_filter_right index.documents fun d hd => ?_
    exact (isSome_score?_iff _ _).mpr (hmatches d ((isSome_score?_iff _ _).mp hd))
  · intro limit limit' hlimit hit hhit
    obtain ⟨f, hf, rfl⟩ := mem_search hhit
    obtain ⟨d, hd, hlater, -, haddress⟩ := mem_findings.mp hf
    obtain ⟨earlier, hearlier, hrecord⟩ :=
      mem_search_of_matches (List.mem_of_getElem? hd) (hmatches d hlater) before.planned.sort hlimit
    exact ⟨earlier, hearlier, by rw [hrecord, haddress]; rfl⟩

/-- A street number and the beginning of a name, and then a flat, the whole number, the beginning of
a second word and a suburb beside them: another strategy, and the flat in Oyster Cove is still
found. -/
theorem typing_on_narrows_cove :
    Slots.TypedOn ⟨"", "1", "oys", "", ""⟩ ⟨"4", "15", "oyster co", "", "main beach"⟩ ∧
      (Slots.planned ⟨"4", "15", "oyster co", "", "main beach"⟩).strategy = .composite ∧
      (Slots.planned ⟨"", "1", "oys", "", ""⟩).strategy = .numberName ∧
      (Slots.planned ⟨"4", "15", "oyster co", "", "main beach"⟩).plan.Matches
        (Document.ofAddress coveFlat) ∧
      (Slots.planned ⟨"", "1", "oys", "", ""⟩).plan.Matches (Document.ofAddress coveFlat) := by
  have htyped : Slots.TypedOn ⟨"", "1", "oys", "", ""⟩ ⟨"4", "15", "oyster co", "", "main beach"⟩ :=
    { flat := by decide
      number := by decide
      name := by decide
      streetType := Or.inl rfl
      suburb := Or.inl rfl }
  have hquoted : Slots.QuotedFrom ⟨"4", "15", "oyster co", "", "main beach"⟩ coveFlat :=
    { flat := by with_unfolding_all decide
      number := by with_unfolding_all decide
      name := by with_unfolding_all decide
      whole_name := by with_unfolding_all decide
      streetType := by with_unfolding_all decide
      suburb := by with_unfolding_all decide }
  have hnarrows :=
    typing_on_narrows (holding (coveFlat :: neighbours) 1) htyped (by decide) (by decide)
  exact ⟨htyped, by
    decide, by decide, hquoted.planned_matches, hnarrows.1 _ hquoted.planned_matches⟩

end AddressIndex

end Gazetteer

import Gazetteer.Proofs.Index.EditDistance
import Gazetteer.Proofs.Index.Search
import Gazetteer.Proofs.Index.Terms
import Gazetteer.Query.Strategy

/-!
# An address is found by its own values

Slots that repeat what an address says, or what has been typed of it so far, lead to a plan that
**the address matches, whichever strategy they call for** (`Slots.QuotedFrom.planned_matches`). Two
facts carry it. A leading clause accepts the beginning of a value, cut wherever it may be; a near
clause accepts the value itself, at no distance. And only the strategy of exactly a name, a type and
a suburb asks for the name nearly, so that only there the name has to be whole.

A search whose result may hold the whole index then returns the address (`mem_search_of_matches`).
-/

namespace Gazetteer

open Index

/-! ## Clauses -/

namespace Index

theorem terms_empty : terms "" = [] := rfl

/-- The terms of a field are those of the address's value in it, so that matching a document can be
said of its address. -/
theorem terms_ofAddress (a : Address) (field : Field) :
    (Document.ofAddress a).terms.of field = terms (fieldValue a field) := by
  cases field <;> rfl

end Index

namespace Clause

variable {clause : Clause} {a : Address}

/-- A clause without a value is matched, since it has no term to look for. -/
theorem matches_of_value_eq_empty (h : clause.value = "") (document : Document) :
    clause.Matches document := by
  intro wanted hwanted
  rw [h, terms_empty] at hwanted
  cases hwanted

/-- **What has been typed of a value is found by its beginning.** Each of its terms begins a term of
the value, the last one perhaps in the middle. -/
theorem matches_of_leading (hmode : clause.mode = .leading)
    (hvalue : clause.value.toList <+: (fieldValue a clause.field).toLower.toList) :
    clause.Matches (Document.ofAddress a) := by
  intro wanted hwanted
  rw [terms_ofAddress, ← terms_toLower, hmode]
  exact exists_term_of_prefix hvalue wanted hwanted

/-- **A value is near itself**, whatever edits are allowed. Each of its terms meets itself, at no
distance. -/
theorem matches_of_near {tolerance : Tolerance} (hmode : clause.mode = .near tolerance)
    (hvalue : clause.value = "" ∨ clause.value = (fieldValue a clause.field).toLower) :
    clause.Matches (Document.ofAddress a) := by
  rcases hvalue with hempty | hwhole
  · exact matches_of_value_eq_empty hempty _
  · intro wanted hwanted
    rw [hwhole, terms_toLower] at hwanted
    refine ⟨wanted, ?_, ?_⟩
    · rw [terms_ofAddress]
      exact hwanted
    · rw [hmode]
      show distance wanted.toList wanted.toList ≤ _
      rw [distance_self]
      exact Nat.zero_le _

end Clause

/-! ## Slots -/

/-- **Slots that quote an address**: each holds what the address says there in ASCII lowercase, or
nothing. Of the numbers and of the name they may hold a beginning, of the name only if other slots
are filled than exactly name, type and suburb. -/
structure Slots.QuotedFrom (s : Slots) (a : Address) : Prop where
  flat : s.flat.toList <+: a.flatNumber.toLower.toList
  number : s.number.toList <+: a.numberFirst.toLower.toList
  name : s.name.toList <+: a.streetName.toLower.toList
  whole_name : s.presence = ⟨false, false, true, true, true⟩ → s.name = a.streetName.toLower
  streetType : s.streetType = "" ∨ s.streetType = a.streetType.toLower
  suburb : s.suburb = "" ∨ s.suburb = a.locality.toLower

/-- Only a name, a type and a suburb lead to the strategy that asks for the name nearly. There are
32 ways to fill slots, and all of them are looked at. -/
theorem Strategy.select_eq_nameTypeSuburb {p : Presence} (h : select p = .nameTypeSuburb) :
    p = ⟨false, false, true, true, true⟩ := by
  obtain ⟨flat, number, name, streetType, suburb⟩ := p
  revert h
  revert flat number name streetType suburb
  decide

/-- The clauses of a strategy are those on the five slots; only one strategy asks for the name
nearly. -/
theorem Strategy.mem_clauses_cases {strategy : Strategy} {s : Slots} {clause : Clause}
    (h : clause ∈ strategy.clauses s) :
    clause = flatClause s ∨ clause = numberClause s ∨ clause = strongNumberClause s ∨
      clause = nameClause s ∨ (clause = nearNameClause s ∧ strategy = .nameTypeSuburb) ∨
      clause = typeClause s ∨ clause = suburbClause s := by
  cases strategy
  case everything => cases h
  case composite =>
    simp only [clauses, filledClauses, List.mem_append] at h
    rcases h with (((h | h) | h) | h) | h
    all_goals
      split at h
      · rw [List.mem_singleton.mp h]
        simp
      · cases h
  all_goals
    simp only [clauses, List.mem_cons, List.not_mem_nil, or_false] at h
    grind

namespace Slots.QuotedFrom

variable {s : Slots} {a : Address}

/-- **Every clause on quoted slots is matched.** The strategies share seven clauses, and each of
these is matched by the slot that it is on. -/
theorem clause_matches (h : s.QuotedFrom a) {clause : Clause}
    (hclause : clause ∈ (Strategy.select s.presence).clauses s) :
    clause.Matches (Document.ofAddress a) := by
  rcases Strategy.mem_clauses_cases hclause with rfl | rfl | rfl | rfl | ⟨rfl, hnear⟩ | rfl | rfl
  · exact Clause.matches_of_leading rfl h.flat
  · exact Clause.matches_of_leading rfl h.number
  · exact Clause.matches_of_leading rfl h.number
  · exact Clause.matches_of_leading rfl h.name
  · exact Clause.matches_of_near rfl
      (Or.inr (h.whole_name (Strategy.select_eq_nameTypeSuburb hnear)))
  · exact Clause.matches_of_near rfl h.streetType
  · exact Clause.matches_of_near rfl h.suburb

/-- **An address matches the plan of slots that quote it.** -/
theorem planned_matches (h : s.QuotedFrom a) : s.planned.plan.Matches (Document.ofAddress a) :=
  Plan.matches_ofClauses_iff.mpr fun _ hclause => h.clause_matches hclause

end Slots.QuotedFrom

/-! ## Search -/

namespace AddressIndex

variable {index : AddressIndex} {plan : Plan} {limit : Nat}

/-- **A result that may hold the whole index has every document that matches.** The window is at
least as long as the result, so neither of the two cuts takes anything away. -/
theorem mem_search_of_matches {d : Document} (hd : d ∈ index.documents) (hmatches : plan.Matches d)
    (sort : SortSpec) (hlimit : index.size ≤ limit) :
    ∃ hit ∈ index.search plan sort limit, hit.record = some d.address := by
  obtain ⟨place, hplace⟩ := List.getElem?_of_mem hd
  have hfound : ⟨place, worth index.documents plan d, d.address⟩ ∈ index.findings plan :=
    mem_findings.mpr ⟨d, hplace, hmatches, rfl, rfl⟩
  have hlength : (index.findings plan).length ≤ limit := Nat.le_trans length_findings_le hlimit
  have hcandidates : index.candidates plan limit =
      (index.findings plan).mergeSort Finding.scoresBefore := by
    apply List.take_of_length_le
    rw [List.length_mergeSort]
    exact Nat.le_trans hlength (Nat.le_max_left _ _)
  have hranked : (index.ranked plan sort limit).take limit = index.ranked plan sort limit := by
    apply List.take_of_length_le
    rw [ranked, List.length_mergeSort, hcandidates, List.length_mergeSort]
    exact hlength
  rw [search_eq, hranked, ranked, hcandidates]
  exact ⟨_, List.mem_map_of_mem (List.mem_mergeSort.mpr (List.mem_mergeSort.mpr hfound)), rfl⟩

/-- **An address is found by its own values**, whatever is filled and however much of the numbers
and of the name has been typed: it matches the plan, and a search that may return every address
returns it.

Slots quote an address where the type and the suburb are its own, or none, and the numbers and the
name begin as its own do (`Slots.QuotedFrom`). Which strategy is chosen depends on which slots are
filled; only the one for exactly a name, a type and a suburb asks for the name nearly, and there the
whole name is needed. The record in the hit is the address itself, unchanged. -/
theorem search_finds_quoted {addresses : List Address} {a : Address}
    (ha : a ∈ addresses) {s : Slots}
    (hquoted : s.QuotedFrom a) (sortWindow : Nat) (hlimit : addresses.length ≤ limit) :
    s.planned.plan.Matches (Document.ofAddress a) ∧
      ∃ hit ∈ (holding addresses sortWindow).search s.planned.plan s.planned.sort limit,
        hit.record = some a := by
  have hmatches := hquoted.planned_matches
  refine ⟨hmatches, ?_⟩
  have hd : Document.ofAddress a ∈ (holding addresses sortWindow).documents :=
    List.mem_map_of_mem ha
  have hsize : (holding addresses sortWindow).size ≤ limit :=
    Nat.le_trans (Nat.le_of_eq (List.length_map _)) hlimit
  obtain ⟨hit, hhit, hrecord⟩ := mem_search_of_matches hd hmatches s.planned.sort hsize
  exact ⟨hit, hhit, by rw [hrecord, Document.address_ofAddress]⟩

/-- A flat of which every slot says something. -/
def coveFlat : Address :=
  { id := "D", flatNumber := "45", numberFirst := "15", streetName := "Oyster Cove"
    streetType := "PROMENADE", locality := "MAIN BEACH" }

/-- All five slots are filled, and both numbers and the street name are still being typed. -/
theorem search_finds_quoted_cove :
    Slots.QuotedFrom ⟨"4", "1", "oyster co", "promenade", "main beach"⟩ coveFlat ∧
      ∃ hit ∈ (holding (coveFlat :: neighbours) 1).search
          (Slots.planned ⟨"4", "1", "oyster co", "promenade", "main beach"⟩).plan
          (Slots.planned ⟨"4", "1", "oyster co", "promenade", "main beach"⟩).sort 4,
        hit.record = some coveFlat := by
  have hquoted : Slots.QuotedFrom ⟨"4", "1", "oyster co", "promenade", "main beach"⟩ coveFlat :=
    { flat := by with_unfolding_all decide
      number := by with_unfolding_all decide
      name := by with_unfolding_all decide
      whole_name := by with_unfolding_all decide
      streetType := by with_unfolding_all decide
      suburb := by with_unfolding_all decide }
  exact ⟨hquoted, (search_finds_quoted List.mem_cons_self hquoted 1 (Nat.le_refl 4)).2⟩

end AddressIndex

end Gazetteer

import Gazetteer.Proofs.Index.Search
import Mathlib.Data.List.Basic

/-!
# Match modes by strictness

Of the modes in which a clause may compare its value with a field, the exact one is the strictest:
what it finds, the others find too. Near modes find the more the more edits they allow, up to two,
beyond which none count; without edits they are exact, since only equal terms are at no distance
(`MatchMode.near_meets_iff_exact`). The mode that goes by the length of a term allows two edits at
most, and none for a term of two characters.

A mode decides on each term of a value by itself, after the value has been cut into its terms. So
what one term says of two modes holds of what clauses find in any index
(`AddressIndex.matched_sublist`), for values with several terms as for values with none, and **the
modes are ordered by strictness everywhere** (`AddressIndex.matched_by_strictness`).
-/

namespace Gazetteer

open Index (Document distance terms)

/-! ## One term -/

namespace Tolerance

/-- The mode that goes by the length of a term allows two edits at most. -/
theorem budget_auto_le_two (term : String) : auto.budget term ≤ 2 := by
  rw [budget]
  split
  · exact Nat.zero_le 2
  · split <;> decide

/-- A term of two characters or fewer it allows none. So the tolerance by length is no tolerance
there. -/
theorem budget_auto_of_short {term : String} (h : term.toList.length ≤ 2) : auto.budget term = 0 :=
  if_pos h

/-- A greater number of edits is no smaller budget, and beyond two it is the same one. -/
theorem budget_edits_mono {a b : UInt8} (h : a ≤ b) (term : String) :
    (edits a).budget term ≤ (edits b).budget term := by
  have hcount : a.toNat ≤ b.toNat := UInt8.le_iff_toNat_le.mp h
  simp only [budget]
  omega

/-- Of more than two edits no more than two count. -/
theorem budget_edits_of_two_le {a : UInt8} (h : 2 ≤ a) (term : String) :
    (edits a).budget term = 2 :=
  Nat.min_eq_right (UInt8.le_iff_toNat_le.mp h)

end Tolerance

namespace MatchMode

variable {wanted term : String} {s t : Tolerance}

theorem Meets.leading_of_exact (h : exact.Meets wanted term) : leading.Meets wanted term :=
  h ▸ List.prefix_rfl

/-- **Without edits near is exact**, as only equal terms are at no distance. -/
theorem near_meets_iff_exact (h : t.budget wanted = 0) :
    (near t).Meets wanted term ↔ exact.Meets wanted term := by
  rw [Meets, Meets, h, Nat.le_zero, Index.distance_eq_zero_iff, String.toList_inj]

/-- A term is within any number of edits of itself. -/
theorem Meets.near_of_exact (h : exact.Meets wanted term) : (near t).Meets wanted term := by
  have hwanted : wanted = term := h
  rw [Meets, hwanted, Index.distance_self]
  exact Nat.zero_le _

/-- Of what a near mode allows only the budget for the term counts. Two tolerances with one budget
for every wanted term are one. -/
theorem near_congr (h : s.budget wanted = t.budget wanted) :
    (near s).Meets wanted term ↔ (near t).Meets wanted term := by
  rw [Meets, Meets, h]

/-- **The more edits are allowed, the more terms are met.** The distance is compared with the budget
and nothing else is. -/
theorem Meets.near_mono (h : (near s).Meets wanted term)
    (hbudget : s.budget wanted ≤ t.budget wanted) :
    (near t).Meets wanted term :=
  Nat.le_trans h hbudget

end MatchMode

/-! ## One clause -/

/-- **A clause is matched in a mode that is no stricter on its terms.** Each term of the value is
met by the term of the field that met it before. -/
theorem Clause.Matches.of_meets {c d : Clause} {document : Document} (h : c.Matches document)
    (hfield : d.field = c.field) (hvalue : d.value = c.value)
    (hmeets : ∀ wanted ∈ terms c.value, ∀ term,
      c.mode.Meets wanted term → d.mode.Meets wanted term) :
    d.Matches document := by
  intro wanted hwanted
  rw [hvalue] at hwanted
  obtain ⟨term, hterm, hmet⟩ := h wanted hwanted
  exact ⟨term, hfield ▸ hterm, hmeets wanted hwanted term hmet⟩

/-! ## What clauses find -/

namespace AddressIndex

/-- The documents that a clause finds, in the order of the index. -/
def matched (index : AddressIndex) (clause : Clause) : List Document :=
  (index.scored (.single clause)).map Prod.snd

variable {index : AddressIndex} {field : Field} {value : String} {m n : MatchMode} {b c : Score}

/-- **A mode that is no stricter finds what another finds**, whatever they weigh, and both find it
in the order of the index. -/
theorem matched_sublist
    (h : ∀ wanted ∈ terms value, ∀ term, m.Meets wanted term → n.Meets wanted term) :
    (index.matched ⟨field, m, b, value⟩).Sublist (index.matched ⟨field, n, c, value⟩) := by
  rw [matched, matched, map_snd_scored, map_snd_scored]
  refine List.monotone_filter_right index.documents fun d hd => ?_
  have hmatches : (⟨field, m, b, value⟩ : Clause).Matches d :=
    (isSome_score?_iff _ (.single _)).mp hd
  exact (isSome_score?_iff _ (.single _)).mpr (hmatches.of_meets rfl rfl h)

/-- Modes that meet the same terms find the same. -/
theorem matched_congr
    (h : ∀ wanted ∈ terms value, ∀ term, m.Meets wanted term ↔ n.Meets wanted term) :
    index.matched ⟨field, m, b, value⟩ = index.matched ⟨field, n, c, value⟩ :=
  (matched_sublist fun wanted hwanted term => (h wanted hwanted term).mp).antisymm
    (matched_sublist fun wanted hwanted term => (h wanted hwanted term).mpr)

/-- **Match modes are ordered by strictness**, in every index, for every field and every value,
whatever the clauses weigh.

Exact clauses find least: what they find is found by leading ones and by near ones of any tolerance.
Without edits near is exact, more edits find more up to two and the same from there on, and the
tolerance by length lies between none and two, where it is none for terms of two characters at most.
All of it comes down to which terms meet one wanted term. -/
theorem matched_by_strictness (index : AddressIndex) (field : Field) (value : String)
    (boost : MatchMode → Score) :
    let found (mode : MatchMode) : List Document := index.matched ⟨field, mode, boost mode, value⟩
    (found .exact).Sublist (found .leading) ∧
    (∀ t, (found .exact).Sublist (found (.near t))) ∧
    found (.near (.edits 0)) = found .exact ∧
    (∀ a b, a ≤ b → (found (.near (.edits a))).Sublist (found (.near (.edits b)))) ∧
    (∀ a b, 2 ≤ a → 2 ≤ b → found (.near (.edits a)) = found (.near (.edits b))) ∧
    (found (.near .auto)).Sublist (found (.near (.edits 2))) ∧
    ((∀ term ∈ terms value, term.toList.length ≤ 2) → found (.near .auto) = found .exact) := by
  intro found
  refine ⟨?_, fun t => ?_, ?_, fun a b hle => ?_, fun a b ha hb => ?_, ?_, fun hshort => ?_⟩
  · exact matched_sublist fun _ _ _ h => h.leading_of_exact
  · exact matched_sublist fun _ _ _ h => h.near_of_exact
  · exact matched_congr fun _ _ _ => MatchMode.near_meets_iff_exact rfl
  · exact matched_sublist fun wanted _ _ h => h.near_mono (Tolerance.budget_edits_mono hle wanted)
  · have hbudget (wanted : String) : (Tolerance.edits a).budget wanted =
        (Tolerance.edits b).budget wanted := by
      rw [Tolerance.budget_edits_of_two_le ha, Tolerance.budget_edits_of_two_le hb]
    exact matched_congr fun wanted _ _ => MatchMode.near_congr (hbudget wanted)
  · exact matched_sublist fun wanted _ _ h => h.near_mono (Tolerance.budget_auto_le_two wanted)
  · exact matched_congr fun wanted hwanted _ =>
      MatchMode.near_meets_iff_exact (Tolerance.budget_auto_of_short (hshort wanted hwanted))

/-- An index of one house. -/
def oneHouse : AddressIndex :=
  ofAddresses [{ id := "1", numberFirst := "9", streetName := "OK ROAD" }]

/-- A value of two terms of no more than two characters each, one of them with an accent. -/
theorem matched_by_strictness_short :
    (∀ term ∈ terms "Ōk 9", term.toList.length ≤ 2) ∧
    oneHouse.matched ⟨.streetName, .near .auto, 1, "Ōk 9"⟩ =
      oneHouse.matched ⟨.streetName, .exact, 1, "Ōk 9"⟩ := by
  have hshort : ∀ term ∈ terms "Ōk 9", term.toList.length ≤ 2 := by decide
  exact ⟨hshort, (matched_by_strictness _ _ _ fun _ => 1).2.2.2.2.2.2 hshort⟩

end AddressIndex

end Gazetteer

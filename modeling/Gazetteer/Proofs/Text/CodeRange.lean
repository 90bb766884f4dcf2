import Gazetteer.Text.CodeRange

/-!
# Membership in tables of code points

A table covers the code points of its ranges and no others: `covers_cases` takes a range out of a
table, and `covers_of_mem` needs the ranges to begin in rising order, since the search ends at the
first range above the code point.

A table is compared with another, and with any other set, by the **binary digits of all its code
points** (`RangeTable.marks`), which are cheap to compute with.
-/

namespace Gazetteer.Text

/-- A table that covers a code point has a range with it. Nothing is asked of the order of the
ranges here. -/
theorem covers_cases {table : RangeTable} {n : Nat} (h : table.covers n = true) :
    ∃ range ∈ table, range.1 ≤ n ∧ n ≤ range.2 := by
  induction table with
  | nil => cases h
  | cons range rest ih =>
    simp only [RangeTable.covers] at h
    split at h
    · cases h
    next hfirst =>
      rcases Bool.or_eq_true_iff.mp h with hlast | hrest
      · exact ⟨range, List.mem_cons_self, Nat.le_of_not_lt hfirst, of_decide_eq_true hlast⟩
      · obtain ⟨found, hmem, hfound⟩ := ih hrest
        exact ⟨found, List.mem_cons_of_mem _ hmem, hfound⟩

/-- Whether the ranges of a table begin in rising order, from a code point on. -/
def RangeTable.risesFrom (least : Nat) : RangeTable → Bool
  | [] => true
  | (first, _) :: rest => Nat.ble least first && RangeTable.risesFrom first rest

/-- In a table that rises from a code point on, every range begins there or later. -/
theorem le_of_risesFrom {table : RangeTable} {least : Nat} (h : table.risesFrom least = true) :
    ∀ range ∈ table, least ≤ range.1 := by
  induction table generalizing least with
  | nil =>
    intro range hrange
    cases hrange
  | cons range rest ih =>
    rw [RangeTable.risesFrom, Bool.and_eq_true, Nat.ble_eq] at h
    rw [List.forall_mem_cons]
    exact ⟨h.1, fun later hlater => Nat.le_trans h.1 (ih h.2 later hlater)⟩

/-- **A table in rising order covers the code points of its ranges.** The search ends at the first
range that begins above the code point, and in rising order it has passed the range by then. -/
theorem covers_of_mem {table : RangeTable} {least n : Nat} (hrises : table.risesFrom least = true)
    {range : Nat × Nat} (hrange : range ∈ table) (hfirst : range.1 ≤ n) (hlast : n ≤ range.2) :
    table.covers n = true := by
  induction table generalizing least with
  | nil => cases hrange
  | cons head rest ih =>
    rw [RangeTable.risesFrom, Bool.and_eq_true] at hrises
    rcases List.mem_cons.mp hrange with rfl | hrange
    · rw [RangeTable.covers, if_neg (Nat.not_lt.mpr hfirst), decide_eq_true hlast, Bool.true_or]
    · have hhead := Nat.le_trans (le_of_risesFrom hrises.2 range hrange) hfirst
      rw [RangeTable.covers, if_neg (Nat.not_lt.mpr hhead), ih hrises.2 hrange, Bool.or_true]

/-- The code points of a table as binary digits. -/
def RangeTable.marks : RangeTable → Nat
  | [] => 0
  | (first, last) :: rest => (1 <<< (last + 1 - first) - 1) <<< first ||| RangeTable.marks rest

/-- A code point that is marked in a table lies in one of its ranges. With the converse for a table
that is covered, two tables are compared by one test of their marks. -/
theorem exists_range_of_testBit_marks {table : RangeTable} {n : Nat}
    (h : table.marks.testBit n = true) : ∃ range ∈ table, range.1 ≤ n ∧ n ≤ range.2 := by
  induction table with
  | nil => simp [RangeTable.marks] at h
  | cons range rest ih =>
    rw [RangeTable.marks, Nat.testBit_or, Bool.or_eq_true] at h
    rcases h with hhere | hrest
    · rw [Nat.testBit_shiftLeft, Nat.one_shiftLeft, Nat.testBit_two_pow_sub_one, Bool.and_eq_true,
        decide_eq_true_eq, decide_eq_true_eq] at hhere
      exact ⟨range, List.mem_cons_self, by omega, by omega⟩
    · obtain ⟨found, hmem, hfound⟩ := ih hrest
      exact ⟨found, List.mem_cons_of_mem _ hmem, hfound⟩

/-- What a table covers is marked in it, in whatever order its ranges are. -/
theorem testBit_marks_of_covers {table : RangeTable} {n : Nat} (h : table.covers n = true) :
    table.marks.testBit n = true := by
  obtain ⟨range, hrange, hfirst, hlast⟩ := covers_cases h
  clear h
  induction table with
  | nil => cases hrange
  | cons head rest ih =>
    rw [RangeTable.marks, Nat.testBit_or, Bool.or_eq_true]
    rcases List.mem_cons.mp hrange with rfl | hrest
    · refine Or.inl ?_
      rw [Nat.testBit_shiftLeft, Nat.one_shiftLeft, Nat.testBit_two_pow_sub_one, Bool.and_eq_true,
        decide_eq_true_eq, decide_eq_true_eq]
      omega
    · exact Or.inr (ih hrest)

/-- **Tables that mark nothing in common** cover nothing in common. One bitwise conjunction compares
them at all code points at once. -/
theorem covers_eq_false_of_marks {table other : RangeTable}
    (h : table.marks &&& other.marks = 0) {n : Nat}
    (hn : table.covers n = true) : other.covers n = false := by
  rw [Bool.eq_false_iff]
  intro hother
  have hboth := congrArg (Nat.testBit · n) h
  simp only [Nat.testBit_and, testBit_marks_of_covers hn, testBit_marks_of_covers hother,
    Nat.zero_testBit] at hboth
  cases hboth

/-- **A table in rising order covers what is marked in it**, so that there its marks say all about
it. -/
theorem covers_of_testBit_marks {table : RangeTable} {n : Nat} (hrises : table.risesFrom 0 = true)
    (h : table.marks.testBit n = true) : table.covers n = true := by
  obtain ⟨range, hrange, hfirst, hlast⟩ := exists_range_of_testBit_marks h
  exact covers_of_mem hrises hrange hfirst hlast

end Gazetteer.Text

import Gazetteer.Extract.Parse

/-!
# Working through an extract gives what it yields

Whoever takes the addresses of an extract one by one takes **the addresses that the extract gives,
in order**, and the counts of the rows are those of the extract (`parse_eq`), malformed rows or not.
So two takers see the same addresses, and every row is counted once (`records_add_skipped`).
-/

namespace Gazetteer.Extract

variable {σ : Type} {take : σ → Address → σ}

/-- A row with an address is counted, and its address is handed on. With the next lemma this is all
that is known of the step; the loop goes by these two. -/
theorem parseRow_of_address {row : Option Row} {address : Address}
    (h : addressOf? row = some address) (counts : ParseCounts) (state : σ) :
    parseRow take (counts, state) row =
      (⟨counts.records + 1, counts.skipped⟩, take state address) := by
  rw [parseRow, h]

/-- A row without one is counted as passed over, and nothing is handed on. -/
theorem parseRow_of_none {row : Option Row} (h : addressOf? row = none)
    (counts : ParseCounts) (state : σ) :
    parseRow take (counts, state) row = (⟨counts.records, counts.skipped + 1⟩, state) := by
  rw [parseRow, h]

/-- Rows add to the counts and hand on their addresses. The induction is on the rows, whatever has
been counted and taken before them. -/
theorem foldl_parseRow (take : σ → Address → σ) (rows : List (Option Row)) (counts : ParseCounts)
    (state : σ) :
    rows.foldl (parseRow take) (counts, state) =
      (⟨counts.records + (Yield.ofRows rows).addresses.length,
        counts.skipped + (Yield.ofRows rows).skipped⟩,
        (Yield.ofRows rows).addresses.foldl take state) := by
  induction rows generalizing counts state with
  | nil => rfl
  | cons row rows ih =>
    rw [List.foldl_cons]
    cases haddress : addressOf? row with
    | some address =>
      rw [parseRow_of_address haddress, ih]
      simp [Yield.ofRows, haddress, Nat.add_assoc, Nat.add_comm 1]
    | none =>
      rw [parseRow_of_none haddress, ih]
      simp [Yield.ofRows, haddress, Nat.add_assoc, Nat.add_comm 1]

/-- **Working through an extract** counts its rows and hands on the addresses that it gives, in
order, whatever is done with them. -/
theorem parse_eq (take : σ → Address → σ) (start : σ) (bytes : List UInt8) :
    parse take start bytes =
      (⟨(read bytes).addresses.length, (read bytes).skipped⟩,
        (read bytes).addresses.foldl take start) := by
  rw [parse, foldl_parseRow, Nat.zero_add, Nat.zero_add, read]

/-- **What is collected is what the extract gives.** Collecting is the loop that puts every address
at the end of a list. -/
theorem collect_eq (csv : String) : collect csv = (readText csv).addresses := by
  rw [collect, parse_eq, List.foldl_append_eq_append, ← List.flatMap_def, List.flatMap_singleton',
    List.nil_append, readText]

/-- Every row gives an address or is passed over. A row that could not be parsed is one of those
passed over. -/
theorem length_addresses_add_skipped (rows : List (Option Row)) :
    (Yield.ofRows rows).addresses.length + (Yield.ofRows rows).skipped = rows.length := by
  induction rows with
  | nil => rfl
  | cons row rows ih =>
    simp only [Yield.ofRows] at ih ⊢
    cases haddress : addressOf? row <;> simp [haddress] <;> omega

/-- **Every data row is counted once**, as a record or as a row passed over. -/
theorem records_add_skipped (bytes : List UInt8) :
    (read bytes).addresses.length + (read bytes).skipped = (rows bytes).length :=
  length_addresses_add_skipped (rows bytes)

end Gazetteer.Extract

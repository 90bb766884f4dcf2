import Gazetteer.Index.Terms
import Gazetteer.Proofs.Text.AsciiCase
import Gazetteer.Proofs.Text.Words

/-!
# Terms of what is typed

Terms do not depend on the case of ASCII letters (`terms_toLower`), and what has been typed of a
text has terms that **begin terms of the whole text** (`exists_term_of_prefix`). All of them but the
last are whole terms of it.
-/

namespace Gazetteer.Index

open Text

/-! ## Case -/

theorem termChar_toLower (c : Char) : termChar c.toLower = termChar c := by
  rw [termChar, termChar, lowerChar_toLower]

/-- **ASCII lowercase has the same terms.** Values that a query gives in lowercase are matched
against fields as they were written. -/
theorem terms_toLower (s : String) : terms s.toLower = terms s := by
  have hruns : runs isAlphanumeric s.toLower.toList =
      (runs isAlphanumeric s.toList).map (List.map Char.toLower) := by
    rw [toList_toLower]
    exact runs_map isAlphanumeric_toLower s.toList
  unfold terms
  rw [hruns, List.map_map]
  apply List.map_congr_left
  intro run _
  simp [List.flatMap_map, termChar_toLower]

/-! ## Typing on -/

/-- **The terms of a beginning begin terms of the text.** The text may have been left off within a
term, so that the last one is a beginning only. -/
theorem exists_term_of_prefix {beginning s : String} (h : beginning.toList <+: s.toList) :
    ∀ wanted ∈ terms beginning, ∃ term ∈ terms s, wanted.toList <+: term.toList := by
  intro wanted hwanted
  obtain ⟨run, hrun, rfl⟩ := List.mem_map.mp hwanted
  obtain ⟨i, hi⟩ := List.getElem?_of_mem hrun
  obtain ⟨longer, hlonger, onward, rfl⟩ := getElem?_runs_of_prefix h i run hi
  refine ⟨_, List.mem_map.mpr ⟨_, List.mem_of_getElem? hlonger, rfl⟩, ?_⟩
  rw [String.toList_ofList, String.toList_ofList, List.flatMap_append]
  exact List.prefix_append _ _

end Gazetteer.Index

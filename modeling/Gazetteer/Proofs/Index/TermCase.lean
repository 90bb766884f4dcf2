import Gazetteer.Index.Terms
import Gazetteer.Proofs.Text.SmallLetters
import Gazetteer.Proofs.Text.Words

/-!
# Terms of lowercase text

A query is lowercased as a whole before it is cut into terms, and an indexed value is cut into terms
whose characters are then lowercased one by one. The terms agree **exactly if the text has no dotted
capital and no capital sigma that ends a word** (`terms_lowercase_eq_iff`). The first becomes a
letter and a combining dot, which is neither a letter nor a number and cuts the term in two; the
second becomes a final small sigma in a text and the other small sigma in a term. So an address
whose name has a dotted capital is not found by its own name (`terms_lowercase_dotted`).

Where the two agree, they do so run by run. Where they do not, a character tells them apart: the
combining dot is in a term of the text and in no term of its lowercase form, and final small sigmas
are fewer in the terms of the text.
-/

namespace Gazetteer.Index

open Text

/-! ## Characters of terms -/

/-- Everything that the table of plain forms gives is ASCII, so that what a character adds to a term
beyond ASCII can only be itself. -/
theorem plainForms_ascii :
    (plainForms.all fun entry => entry.1.toList.all fun c => Nat.blt c.toNat 128) = true := by
  decide

/-- Beyond ASCII only a character itself is in its plain form. -/
theorem eq_of_mem_plainForm {c d : Char} (hd : 128 ≤ d.toNat) (h : d ∈ plainForm c) : d = c := by
  unfold plainForm at h
  split at h
  · exact List.mem_singleton.mp h
  split at h
  next entry hentry =>
    have hall := List.all_eq_true.mp plainForms_ascii entry (List.mem_of_find?_eq_some hentry)
    have hascii := Nat.blt_eq.mp (List.all_eq_true.mp hall d h)
    exact absurd hd (Nat.not_le_of_lt hascii)
  next => exact List.mem_singleton.mp h

/-- Beyond ASCII a character adds to its term what it has in lowercase. -/
theorem mem_lowerChar_of_mem_termChar {c d : Char} (hd : 128 ≤ d.toNat) (h : d ∈ termChar c) :
    d ∈ lowerChar c := by
  obtain ⟨small, hsmall, hplain⟩ := List.mem_flatMap.mp h
  exact eq_of_mem_plainForm hd hplain ▸ hsmall

/-- A small form adds to a term what its letter does. -/
theorem termChar_smallForm {c : Char} (h : c ≠ dottedCapitalI) :
    termChar (smallForm c) = termChar c := by
  rw [termChar, termChar, lowerChar_smallForm h, lowerChar_eq_smallForm h]

/-- Final small sigmas come from nothing but themselves: terms are lowercased character by
character, and on its own no capital sigma has this form. -/
theorem count_termChar (c : Char) : (termChar c).count 'ς' = [c].count 'ς' := by
  by_cases hc : c = 'ς'
  · subst hc
    decide
  · rw [List.count_eq_zero.mpr, List.count_eq_zero.mpr]
    · exact fun h => hc (List.mem_singleton.mp h).symm
    · exact fun h =>
        hc (eq_of_finalSigma_mem_lowerChar (mem_lowerChar_of_mem_termChar (by decide) h))

/-! ## Characters of all terms -/

/-- **The terms of a text spell its letters and numbers.** Where one term ends and the next begins
is lost here, which is why counting characters is not enough for equality of terms. -/
theorem flatMap_terms (s : String) :
    (terms s).flatMap String.toList = (s.toList.filter isAlphanumeric).flatMap termChar := by
  rw [← flatten_runs, ← List.flatMap_id, List.flatMap_assoc, terms, List.flatMap_map]
  simp only [String.toList_ofList, id]

/-- Character by character, the final small sigmas of a text are kept and none are added. -/
theorem count_flatMap_termChar (cs : List Char) :
    (cs.flatMap termChar).count 'ς' = cs.count 'ς' := by
  induction cs with
  | nil => rfl
  | cons c rest ih =>
    rw [List.flatMap_cons, List.count_append, ih, count_termChar, ← List.count_append,
      List.singleton_append]

/-- The terms of a text have its final small sigmas. -/
theorem count_flatMap_terms (s : String) :
    ((terms s).flatMap String.toList).count 'ς' = s.toList.count 'ς' := by
  rw [flatMap_terms, count_flatMap_termChar, List.count_filter (by decide)]

/-- A dotted capital puts a combining dot into a term. Once the text is in lowercase the dot is a
character of its own, which belongs to no term. -/
theorem combiningDot_mem_terms {s : String} (h : dottedCapitalI ∈ s.toList) :
    Char.ofNat 0x307 ∈ (terms s).flatMap String.toList := by
  rw [flatMap_terms]
  refine List.mem_flatMap.mpr ⟨dottedCapitalI, List.mem_filter.mpr ⟨h, by decide⟩, ?_⟩
  decide

/-- No term of a lowercase text has a combining dot, which is no letter: where the text has one, it
has ended the term. -/
theorem combiningDot_not_mem_terms_lowercase (s : String) :
    Char.ofNat 0x307 ∉ (terms (lowercase s)).flatMap String.toList := by
  rw [flatMap_terms, lowercase, String.toList_ofList]
  intro h
  obtain ⟨c, hc, hdot⟩ := List.mem_flatMap.mp h
  obtain ⟨hlower, hletter⟩ := List.mem_filter.mp hc
  have hmem := mem_lowerChar_of_mem_termChar (by decide) hdot
  rw [(mem_lowerFrom hlower).1.1, List.mem_singleton] at hmem
  have hno : isAlphanumeric (Char.ofNat 0x307) = false := by decide
  rw [← hmem, hno] at hletter
  cases hletter

/-! ## Terms -/

/-- Small forms have the terms of their text, run by run. -/
theorem terms_map_smallForm {cs : List Char} (h : dottedCapitalI ∉ cs) :
    terms (String.ofList (cs.map smallForm)) = terms (String.ofList cs) := by
  unfold terms
  rw [String.toList_ofList, String.toList_ofList, runs_map isAlphanumeric_smallForm, List.map_map]
  apply List.map_congr_left
  intro run hrun
  have hwithin : ∀ c ∈ run, c ∈ cs := by
    intro c hc
    have hflat : c ∈ (runs isAlphanumeric cs).flatten := List.mem_flatten.mpr ⟨run, hrun, hc⟩
    rw [flatten_runs] at hflat
    exact (List.mem_filter.mp hflat).1
  have hsame : run.map (fun c => termChar (smallForm c)) = run.map termChar := by
    apply List.map_congr_left
    intro c hc
    exact termChar_smallForm fun heq => h (heq ▸ hwithin c hc)
  rw [Function.comp_apply, List.flatMap_map, List.flatMap_def, hsame, ← List.flatMap_def]

/-- **A text and its lowercase form have the same terms exactly if the text has no dotted capital
and no capital sigma that ends a word.** Where one of them is there, a character that only one side
has tells the two apart.

The terms of a text are made character by character, and a character has one lowercase form there.
Lowercasing the whole text first differs in two places: the dotted capital becomes two characters,
of which the second ends a term, and a sigma at the end of a word becomes the final one. -/
theorem terms_lowercase_eq_iff (s : String) :
    terms (lowercase s) = terms s ↔ dottedCapitalI ∉ s.toList ∧ ¬ FinalSigma false s.toList := by
  constructor
  · intro hterms
    refine ⟨fun hdotted => ?dotted, fun hsigma => ?sigma⟩
    case dotted =>
      have hdot := combiningDot_mem_terms hdotted
      rw [← hterms] at hdot
      exact combiningDot_not_mem_terms_lowercase s hdot
    case sigma =>
      have hmore := (count_lowerFrom s.toList false).2 hsigma
      have hcount := count_flatMap_terms (lowercase s)
      rw [hterms, count_flatMap_terms, lowercase, String.toList_ofList] at hcount
      exact absurd hcount (Nat.ne_of_lt hmore)
  · rintro ⟨hdotted, hsigma⟩
    have hsmall : s.toList.flatMap lowerChar = s.toList.map smallForm := by
      rw [List.map_eq_flatMap, List.flatMap_def, List.flatMap_def]
      congr 1
      apply List.map_congr_left
      intro c hc
      exact lowerChar_eq_smallForm fun heq => hdotted (heq ▸ hc)
    rw [lowercase, lowerFrom_of_not_finalSigma hsigma, hsmall, terms_map_smallForm hdotted,
      String.ofList_toList]

/-- A dotted capital inside a name cuts its term in two once the name is in lowercase. -/
theorem terms_lowercase_dotted :
    terms "İstanbul" = [String.ofList ['i', Char.ofNat 0x307, 's', 't', 'a', 'n', 'b', 'u', 'l']] ∧
      terms (lowercase "İstanbul") = ["i", "stanbul"] ∧
      terms (lowercase "İstanbul") ≠ terms "İstanbul" := by
  decide

end Gazetteer.Index

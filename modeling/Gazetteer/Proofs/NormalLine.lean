import Gazetteer.Address
import Gazetteer.Proofs.Text.SpaceOnce

/-!
# The normal form of a line

Lines are compared, and completed, in their normal form. Two laws make that sound: the normal form
is a normal form (`normalLine_normalLine`), so that it may be taken any number of times on the way
to the index; and **typing on only adds characters at the end** (`normalLine_prefix`), so that what
has been typed of a line begins the line also in normal form.

The second law has one exception. A capital sigma that ends what has been typed becomes `ς`, and `σ`
once the word goes on, so the law asks for a line without that letter.
-/

namespace Gazetteer

open Text

/-- The normal form over character lists: the words, in lowercase, with a space between them. -/
def normalChars (cs : List Char) : List Char :=
  joinWords ((wordsOf cs).map (lowerFrom false))

/-- The normal form of a line is that of its characters: each word is lowercased by itself, as from
the beginning of a text. -/
theorem toList_normalLine (line : String) :
    (normalLine line).toList = normalChars line.toList := by
  simp only [normalLine, unwords, words, normalChars, String.toList_ofList, List.map_map]
  refine congrArg joinWords (List.map_congr_left fun w _ => ?_)
  simp only [Function.comp_apply, lowercase, String.toList_ofList]

/-- The words of a normal form are the lowercase words. Lowercasing makes no blanks and leaves
something of every word. -/
theorem wordsOf_normalChars (cs : List Char) :
    wordsOf (normalChars cs) = (wordsOf cs).map (lowerFrom false) := by
  refine wordsOf_joinWords fun w hw => ?_
  obtain ⟨word, hword, rfl⟩ := List.mem_map.mp hw
  exact isWord_lowerFrom (isWord_of_mem_wordsOf hword)

/-- A normal form of characters is its own: its words are in lowercase already, and single spaces
stay. -/
theorem normalChars_normalChars (cs : List Char) :
    normalChars (normalChars cs) = normalChars cs := by
  have hwords : (wordsOf (normalChars cs)).map (lowerFrom false) =
      (wordsOf cs).map (lowerFrom false) := by
    rw [wordsOf_normalChars, List.map_map]
    exact List.map_congr_left fun w _ => lowerFrom_lowerFrom w false false
  calc normalChars (normalChars cs)
      = joinWords ((wordsOf (normalChars cs)).map (lowerFrom false)) := rfl
    _ = normalChars cs := by rw [hwords, normalChars]

/-- **A normal form is its own normal form**, so that it does not matter where on the way to the
index or to the query it is taken. -/
theorem normalLine_normalLine (line : String) : normalLine (normalLine line) = normalLine line := by
  apply String.toList_inj.mp
  rw [toList_normalLine, toList_normalLine, normalChars_normalChars]

/-- **A normal form has single spaces**, and none at its ends. -/
theorem singleSpaced_normalLine (line : String) : SingleSpaced (normalLine line).toList := by
  rw [toList_normalLine, normalChars]
  refine singleSpaced_joinWords fun w hw => ?_
  obtain ⟨word, hword, rfl⟩ := List.mem_map.mp hw
  exact isWord_lowerFrom (isWord_of_mem_wordsOf hword)

/-- **A normal form has no blanks around it**, and stays as it is in lowercase. -/
theorem settled_normalLine (line : String) :
    Trimmed (normalLine line).toList ∧ ∀ c ∈ (normalLine line).toList, Settled c := by
  refine ⟨(singleSpaced_normalLine line).trimmed, fun c hc => ?_⟩
  rw [toList_normalLine, normalChars] at hc
  rcases mem_joinWords hc with rfl | ⟨w, hw, hmem⟩
  · exact ⟨by decide, by decide⟩
  · obtain ⟨word, -, rfl⟩ := List.mem_map.mp hw
    exact (mem_lowerFrom hmem).1

/-- The normal form of a text in lowercase is its words. -/
theorem toList_normalLine_of_settled {s : String} (h : ∀ c ∈ s.toList, Settled c) :
    (normalLine s).toList = joinWords (wordsOf s.toList) := by
  rw [toList_normalLine, normalChars, ← wordsOf_lowerFrom, lowerFrom_eq_self h]

/-! ## Typing on -/

/-- A text up to its last word that is still open: it is empty, or ends in a blank. -/
def Closed (cs : List Char) : Prop :=
  cs = [] ∨ ∃ before gap, cs = before ++ [gap] ∧ isBlank gap = true

/-- Every text is a closed part and an open word, which may be empty. The word is what typing on may
change. -/
theorem exists_closed_append (cs : List Char) :
    ∃ closed word, cs = closed ++ word ∧ Closed closed ∧ ∀ c ∈ word, isBlank c = false := by
  induction cs with
  | nil => exact ⟨[], [], rfl, Or.inl rfl, List.forall_mem_nil _⟩
  | cons c rest ih =>
    obtain ⟨closed, word, rfl, hclosed, hword⟩ := ih
    rcases hclosed with rfl | ⟨before, gap, rfl, hgap⟩
    · cases hc : isBlank c with
      | true => exact ⟨[c], word, rfl, Or.inr ⟨[], c, rfl, hc⟩, hword⟩
      | false => exact ⟨[], c :: word, rfl, Or.inl rfl, List.forall_mem_cons.mpr ⟨hc, hword⟩⟩
    · exact ⟨c :: (before ++ [gap]), word, rfl, Or.inr ⟨c :: before, gap, rfl, hgap⟩, hword⟩

/-- The words of a closed part are complete, whatever follows it. -/
theorem wordsOf_closed_append {closed : List Char} (h : Closed closed) (rest : List Char) :
    wordsOf (closed ++ rest) = wordsOf closed ++ wordsOf rest := by
  rcases h with rfl | ⟨before, gap, rfl, hgap⟩
  · rfl
  · rw [List.append_assoc, List.singleton_append, wordsOf_append_blank _ _ hgap,
      wordsOf_append_blank _ _ hgap]
    rw [show wordsOf [] = [] from rfl, List.append_nil]

/-- The first word of a text that begins with one may go on before the text does. -/
theorem wordsOf_word_append {word : List Char} (hword : IsWord word) (rest : List Char) :
    ∃ onward more, onward <+: rest ∧ wordsOf (word ++ rest) = (word ++ onward) :: more := by
  induction rest generalizing word with
  | nil => exact ⟨[], [], List.prefix_refl _, by rw [List.append_nil, wordsOf_of_isWord hword]⟩
  | cons c rest ih =>
    cases hc : isBlank c with
    | true =>
      refine ⟨[], wordsOf rest, List.nil_prefix, ?_⟩
      rw [wordsOf_append_blank _ _ hc, wordsOf_of_isWord hword, List.append_nil]
      rfl
    | false =>
      have hlonger : IsWord (word ++ [c]) := by
        refine ⟨List.append_ne_nil_of_right_ne_nil _ (List.cons_ne_nil _ _), fun d hd => ?_⟩
        rcases List.mem_append.mp hd with hd | hd
        · exact hword.2 d hd
        · exact List.mem_singleton.mp hd ▸ hc
      obtain ⟨onward, more, hon, h⟩ := ih hlonger
      refine ⟨c :: onward, more, List.prefix_cons_inj c |>.mpr hon, ?_⟩
      rw [List.append_assoc, List.singleton_append] at h
      rw [h, List.append_assoc, List.singleton_append]

/-- **Typing on only adds characters at the end** of the normal form. What has been typed is a
closed part, whose words stay as they are, and an open word, which the rest of the line may go on
with. -/
theorem normalChars_prefix {typed line : List Char} (h : typed <+: line)
    (hsigma : capitalSigma ∉ line) : normalChars typed <+: normalChars line := by
  obtain ⟨rest, rfl⟩ := h
  obtain ⟨closed, word, rfl, hclosed, hword⟩ := exists_closed_append typed
  rw [List.append_assoc] at hsigma ⊢
  simp only [normalChars, wordsOf_closed_append hclosed, List.map_append]
  by_cases hne : word = []
  · subst hne
    simpa [show wordsOf [] = [] from rfl] using joinWords_prefix_append _ _
  · obtain ⟨onward, more, hon, hwords⟩ := wordsOf_word_append ⟨hne, hword⟩ rest
    rw [wordsOf_of_isWord ⟨hne, hword⟩, hwords]
    have hfree : capitalSigma ∉ word ++ onward := fun hm => hsigma <| by
      rcases List.mem_append.mp hm with hm | hm
      · exact List.mem_append_right _ (List.mem_append_left _ hm)
      · exact List.mem_append_right _ (List.mem_append_right _ (hon.subset hm))
    have hlower : lowerFrom false word <+: lowerFrom false (word ++ onward) := by
      rw [lowerFrom_eq_flatMap hfree, List.flatMap_append,
        lowerFrom_eq_flatMap fun hm => hfree (List.mem_append_left _ hm)]
      exact List.prefix_append _ _
    exact joinWords_prefix _ hlower _

/-- **What has been typed of a line begins it also in normal form.** This is what completion relies
on. -/
theorem normalLine_prefix {typed line : String} (h : typed.toList <+: line.toList)
    (hsigma : capitalSigma ∉ line.toList) :
    (normalLine typed).toList <+: (normalLine line).toList := by
  rw [toList_normalLine, toList_normalLine]
  exact normalChars_prefix h hsigma

end Gazetteer

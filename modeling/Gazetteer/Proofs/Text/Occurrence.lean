import Gazetteer.Text.Occurrence

/-!
# The first occurrence of a word

A word first stands in a text between two parts when the text is these three in a row and the word
stands nowhere earlier (`FirstAt`). That is what the search finds: **a place if and only if the word
is part of the text** (`exists_occurrence?_iff`), **and then the parts around its first occurrence**
(`splitAtWord_eq_some_iff`).
-/

namespace Gazetteer.Text

/-- The word stands in the text between two parts, and nowhere earlier. This says of a place what
the search says by its order of trying. -/
structure FirstAt (word text before after : List Char) : Prop where
  text_eq : text = before ++ word ++ after
  first : ∀ earlier later, text = earlier ++ word ++ later → before.length ≤ earlier.length

namespace FirstAt

variable {word text before after : List Char}

/-- The word is part of the text, and so is what is before it and what is after it. -/
theorem word_infix_text (h : FirstAt word text before after) : word <:+: text :=
  ⟨before, after, h.text_eq.symm⟩

theorem before_prefix_text (h : FirstAt word text before after) : before <+: text :=
  ⟨word ++ after, by rw [h.text_eq, List.append_assoc]⟩

theorem before_infix_text (h : FirstAt word text before after) : before <:+: text :=
  h.before_prefix_text.isInfix

theorem after_infix_text (h : FirstAt word text before after) : after <:+: text :=
  ⟨before ++ word, [], by rw [h.text_eq, List.append_nil]⟩

/-- A word is not part of what is before its first occurrence. The empty word is part of everything,
also of nothing before it, and is left out. -/
theorem not_infix_before (h : FirstAt word text before after) (hne : word ≠ []) :
    ¬ word <:+: before := by
  rintro ⟨earlier, later, hbefore⟩
  have hearly := h.first earlier (later ++ word ++ after) (by
    rw [h.text_eq, ← hbefore]
    simp only [List.append_assoc])
  have hlength := List.length_pos_iff.mpr hne
  rw [← hbefore] at hearly
  simp only [List.length_append] at hearly
  omega

/-- **A word first stands at one place**, and so the parts around it are settled by the text. -/
theorem unique (h : FirstAt word text before after) {before' after' : List Char}
    (h' : FirstAt word text before' after') : before = before' ∧ after = after' := by
  have hlength : before.length = before'.length :=
    Nat.le_antisymm (h.first _ _ h'.text_eq) (h'.first _ _ h.text_eq)
  have hsame : before ++ (word ++ after) = before' ++ (word ++ after') := by
    rw [← List.append_assoc, ← List.append_assoc, ← h.text_eq, h'.text_eq]
  obtain ⟨hbefore, hrest⟩ := List.append_inj hsame hlength
  exact ⟨hbefore, List.append_cancel_left hrest⟩

theorem of_prefix (word after : List Char) : FirstAt word (word ++ after) [] after where
  text_eq := rfl
  first _ _ _ := Nat.zero_le _

/-- A word that does not stand at the beginning stands first where it does in the rest. With
`of_prefix` this is one step of the search. -/
theorem cons (h : FirstAt word text before after) {c : Char} (hc : ¬ word <+: c :: text) :
    FirstAt word (c :: text) (c :: before) after where
  text_eq := by rw [h.text_eq]; rfl
  first earlier later heq := by
    cases earlier with
    | nil => exact absurd ⟨later, heq.symm⟩ hc
    | cons d earlier =>
      obtain ⟨-, hrest⟩ := List.cons.inj heq
      exact Nat.succ_le_succ (h.first earlier later hrest)

end FirstAt

/-- The search finds where the word stands first: what it returns is the number of characters before
that place. -/
theorem exists_firstAt {word text : List Char} {place : Nat}
    (h : occurrence? word text = some place) :
    ∃ before after, before.length = place ∧ FirstAt word text before after := by
  induction text generalizing place with
  | nil =>
    rw [occurrence?] at h
    split at h
    next hword =>
      subst hword
      exact ⟨[], [], Option.some.inj h, FirstAt.of_prefix [] []⟩
    · cases h
  | cons c rest ih =>
    rw [occurrence?] at h
    split at h
    next hprefix =>
      obtain ⟨after, hafter⟩ := List.isPrefixOf_iff_prefix.mp hprefix
      rw [← hafter]
      exact ⟨[], after, Option.some.inj h, FirstAt.of_prefix word after⟩
    next hprefix =>
      obtain ⟨found, hfound, rfl⟩ := Option.map_eq_some_iff.mp h
      obtain ⟨before, after, rfl, hfirst⟩ := ih hfound
      refine ⟨c :: before, after, rfl, hfirst.cons fun hword => hprefix ?_⟩
      exact List.isPrefixOf_iff_prefix.mpr hword

/-- **The search finds a word exactly if it is part of the text.** It stops at no place in vain and
passes over none. -/
theorem exists_occurrence?_iff {word text : List Char} :
    (∃ place, occurrence? word text = some place) ↔ word <:+: text := by
  constructor
  · rintro ⟨place, h⟩
    obtain ⟨before, after, -, hfirst⟩ := exists_firstAt h
    exact ⟨before, after, hfirst.text_eq.symm⟩
  · intro h
    induction text with
    | nil => exact ⟨0, by rw [occurrence?, if_pos (List.infix_nil.mp h)]⟩
    | cons c rest ih =>
      rw [occurrence?]
      split
      · exact ⟨0, rfl⟩
      next hprefix =>
        rcases List.infix_cons_iff.mp h with hstart | hrest
        · exact absurd (List.isPrefixOf_iff_prefix.mpr hstart) hprefix
        · obtain ⟨place, hplace⟩ := ih hrest
          exact ⟨place + 1, by rw [hplace]; rfl⟩

/-- It finds nothing exactly if the word is not part of the text. -/
theorem occurrence?_eq_none_iff {word text : List Char} :
    occurrence? word text = none ↔ ¬ word <:+: text := by
  rw [← exists_occurrence?_iff, ← Option.isSome_iff_exists, Option.not_isSome_iff_eq_none]

/-- **The place found** is where the word first stands. -/
theorem FirstAt.occurrence?_eq {word text before after : List Char}
    (h : FirstAt word text before after) :
    occurrence? word text = some before.length := by
  obtain ⟨place, hplace⟩ := exists_occurrence?_iff.mpr ⟨before, after, h.text_eq.symm⟩
  obtain ⟨before', after', rfl, hfirst⟩ := exists_firstAt hplace
  rw [hplace, (h.unique hfirst).1]

/-- **Cutting a text at a word** leaves what is before and after its first occurrence. -/
theorem splitAtWord_eq_some_iff {word text before after : List Char} :
    splitAtWord word text = some (before, after) ↔ FirstAt word text before after := by
  have hcut : ∀ {before after : List Char}, FirstAt word text before after →
      splitAtWord word text = some (before, after) := by
    intro before after h
    have hbefore : text.take before.length = before := by
      rw [h.text_eq, List.append_assoc, List.take_left]
    have hafter : text.drop (before.length + word.length) = after := by
      rw [h.text_eq, ← List.length_append, List.drop_left]
    rw [splitAtWord, h.occurrence?_eq, Option.map_some, hbefore, hafter]
  constructor
  · intro h
    obtain ⟨place, hplace, -⟩ := Option.map_eq_some_iff.mp h
    obtain ⟨before', after', -, hfirst⟩ := exists_firstAt hplace
    obtain ⟨rfl, rfl⟩ := Prod.mk.inj (Option.some.inj ((hcut hfirst).symm.trans h))
    exact hfirst
  · exact hcut

theorem splitAtWord_eq_none_iff {word text : List Char} :
    splitAtWord word text = none ↔ ¬ word <:+: text := by
  rw [splitAtWord, Option.map_eq_none_iff, occurrence?_eq_none_iff]

/-! ## Occurrences after a beginning -/

/-- **A word whose first character is not in the beginning of a text** stands after that beginning.
The rest of the word may well occur there; the first character keeps the word from reaching into
it. -/
theorem exists_append_of_first {front text word earlier later : List Char} (hne : word ≠ [])
    (hfirst : ∀ c ∈ word.head?, c ∉ front) (h : front ++ text = earlier ++ word ++ later) :
    ∃ between, earlier = front ++ between ∧ text = between ++ word ++ later := by
  rw [List.append_assoc, List.append_eq_append_iff] at h
  rcases h with ⟨between, hearlier, htext⟩ | ⟨overlap, hfront, hword⟩
  · exact ⟨between, hearlier, by rw [htext, List.append_assoc]⟩
  · cases word with
    | nil => exact absurd rfl hne
    | cons c word =>
      cases overlap with
      | nil =>
        rw [List.append_nil] at hfront
        exact ⟨[], by rw [hfront, List.append_nil], hword.symm⟩
      | cons d overlap =>
        obtain ⟨rfl, -⟩ := List.cons.inj hword
        refine absurd ?_ (hfirst c rfl)
        rw [hfront]
        exact List.mem_append_right _ List.mem_cons_self

/-- Such a word stands first in the text where it does in what follows the beginning. The numbers at
the front of a query are such a beginning for a word without digits. -/
theorem FirstAt.append {word text before after : List Char} (h : FirstAt word text before after)
    (hne : word ≠ []) {front : List Char} (hfirst : ∀ c ∈ word.head?, c ∉ front) :
    FirstAt word (front ++ text) (front ++ before) after where
  text_eq := by
    rw [h.text_eq]
    simp only [List.append_assoc]
  first earlier later heq := by
    obtain ⟨between, rfl, hbetween⟩ := exists_append_of_first hne hfirst heq
    rw [List.length_append, List.length_append]
    exact Nat.add_le_add_left (h.first between later hbetween) _

/-! ## Lengths in bytes -/

theorem exists_append_of_infix {a b : String} (h : a.toList <:+: b.toList) :
    ∃ front back, b = front ++ a ++ back := by
  obtain ⟨front, back, h⟩ := h
  refine ⟨String.ofList front, String.ofList back, String.toList_inj.mp ?_⟩
  rw [String.toList_append, String.toList_append, String.toList_ofList, String.toList_ofList, h]

/-- A text that is part of another of its length is that other. Lengths are counted in bytes, as
scan order counts them. -/
theorem eq_of_infix_of_size {a b : String} (h : a.toList <:+: b.toList)
    (hsize : a.utf8ByteSize = b.utf8ByteSize) : a = b := by
  obtain ⟨front, back, rfl⟩ := exists_append_of_infix h
  rw [String.utf8ByteSize_append, String.utf8ByteSize_append] at hsize
  have hfront : front = "" := String.utf8ByteSize_eq_zero_iff.mp (by omega)
  have hback : back = "" := String.utf8ByteSize_eq_zero_iff.mp (by omega)
  rw [hfront, hback, String.empty_append, String.append_empty]

/-- Two texts of one length that begin a text are the same. -/
theorem eq_of_prefix_of_size {a b : String} {text : List Char} (ha : a.toList <+: text)
    (hb : b.toList <+: text) (hsize : a.utf8ByteSize = b.utf8ByteSize) : a = b := by
  rcases List.prefix_or_prefix_of_prefix ha hb with h | h
  · exact eq_of_infix_of_size h.isInfix hsize
  · exact (eq_of_infix_of_size h.isInfix hsize.symm).symm

/-- **Two words of one length that first stand at one place** are the same. So of the longest words
in a text at most one begins where the earliest of them does. -/
theorem eq_of_occurrence?_eq {a b : String} {text : List Char} {place : Nat}
    (ha : occurrence? a.toList text = some place) (hb : occurrence? b.toList text = some place)
    (hsize : a.utf8ByteSize = b.utf8ByteSize) : a = b := by
  obtain ⟨before, after, hlength, hfirst⟩ := exists_firstAt ha
  obtain ⟨before', after', hlength', hfirst'⟩ := exists_firstAt hb
  have hsame : before ++ (a.toList ++ after) = before' ++ (b.toList ++ after') := by
    rw [← List.append_assoc, ← hfirst.text_eq, hfirst'.text_eq, List.append_assoc]
  obtain ⟨-, hrest⟩ := List.append_inj hsame (by omega)
  exact eq_of_prefix_of_size ⟨after, rfl⟩ ⟨after', hrest.symm⟩ hsize

end Gazetteer.Text

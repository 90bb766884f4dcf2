import Gazetteer.Proofs.Text.Occurrence
import Gazetteer.Proofs.Text.Trim

/-!
# Parts with one space between them

A line is the parts that are not empty, with one space between them (`spaced`). Seen from one of
these parts it is an opening, the part and a closing (`spaced_append_cons`): the parts before it and
a space, if there are any, and a space and the parts after it.

A word without blanks does not span a space. So **if it is part of a line then it is part of one of
the parts** (`infix_of_infix_spaced`), and if it is not part of what opens the line then **it first
stands behind the opening** (`firstAt_opening`).
-/

namespace Gazetteer.Text

/-- The parts that are not empty, with one space between them. -/
def spaced (parts : List (List Char)) : List Char :=
  joinWords (parts.filter fun part => !part.isEmpty)

/-- A text before others on a line. -/
def opening (cs : List Char) : List Char :=
  if cs = [] then [] else cs ++ [' ']

/-- A text after others on a line. -/
def closing (cs : List Char) : List Char :=
  if cs = [] then [] else ' ' :: cs

section

variable {part cs : List Char} {parts : List (List Char)}

@[simp]
theorem opening_nil : opening [] = [] := rfl

@[simp]
theorem closing_nil : closing [] = [] := rfl

/-- A text before others is followed by a space, and one after others follows a space. -/
theorem opening_of_ne_nil (h : cs ≠ []) : opening cs = cs ++ [' '] :=
  if_neg h

theorem closing_of_ne_nil (h : cs ≠ []) : closing cs = ' ' :: cs :=
  if_neg h

@[simp]
theorem spaced_nil_cons (parts : List (List Char)) : spaced ([] :: parts) = spaced parts := rfl

/-- A line begins with its first part, and what is left of the parts closes it. -/
theorem spaced_cons (hne : part ≠ []) (parts : List (List Char)) :
    spaced (part :: parts) = part ++ closing (spaced parts) := by
  have hfilled : ∀ {cs : List Char}, (!cs.isEmpty) = true ↔ cs ≠ [] := by
    intro cs
    rw [Bool.not_eq_true', List.isEmpty_eq_false_iff]
  rw [spaced, spaced, List.filter_cons, if_pos (hfilled.mpr hne)]
  cases hfilter : parts.filter fun part => !part.isEmpty with
  | nil => exact (List.append_nil part).symm
  | cons next rest =>
    have hmem : next ∈ parts.filter fun part => !part.isEmpty := by
      rw [hfilter]
      exact List.mem_cons_self
    have hnext : next ≠ [] := hfilled.mp (List.mem_filter.mp hmem).2
    rw [joinWords_cons_cons, closing_of_ne_nil (joinWords_ne_nil hnext rest)]

/-- Only how the later parts are spaced matters to a line. -/
theorem spaced_cons_congr {more : List (List Char)} (h : spaced parts = spaced more)
    (part : List Char) :
    spaced (part :: parts) = spaced (part :: more) := by
  by_cases hne : part = []
  · rw [hne, spaced_nil_cons, spaced_nil_cons, h]
  · rw [spaced_cons hne, spaced_cons hne, h]

@[simp]
theorem spaced_singleton (part : List Char) : spaced [part] = part := by
  by_cases hne : part = []
  · rw [hne]
    rfl
  · rw [spaced_cons hne]
    exact List.append_nil part

/-- **A line seen from one of its parts.** The parts on either side may all be empty; then there is
no space on that side either. -/
theorem spaced_append_cons (hne : part ≠ []) (front back : List (List Char)) :
    spaced (front ++ part :: back) = opening (spaced front) ++ part ++ closing (spaced back) := by
  induction front with
  | nil => exact spaced_cons hne back
  | cons first rest ih =>
    by_cases hfirst : first = []
    · rw [hfirst, List.cons_append, spaced_nil_cons, spaced_nil_cons, ih]
    · have hwhole : opening (spaced rest) ++ part ++ closing (spaced back) ≠ [] :=
        List.append_ne_nil_of_left_ne_nil (List.append_ne_nil_of_right_ne_nil _ hne) _
      rw [List.cons_append, spaced_cons hfirst, spaced_cons hfirst, ih, closing_of_ne_nil hwhole,
        opening_of_ne_nil (List.append_ne_nil_of_left_ne_nil hfirst _)]
      by_cases hrest : spaced rest = []
      · simp only [hrest, opening_nil, closing_nil, List.cons_append, List.nil_append,
          List.append_nil, List.append_assoc]
      · simp only [opening_of_ne_nil hrest, closing_of_ne_nil hrest, List.cons_append,
          List.nil_append, List.append_assoc]

/-- A line seen from its last part but one, which is how a street type stands before a suburb. -/
theorem spaced_append_pair (hne : part ≠ []) (front : List (List Char)) (last : List Char) :
    spaced (front ++ [part, last]) = opening (spaced front) ++ part ++ closing last := by
  rw [spaced_append_cons hne front [last], spaced_singleton]

/-- A line has nothing but the characters of its parts, and spaces. -/
theorem mem_spaced {c : Char} (hc : c ∈ spaced parts) : c = ' ' ∨ ∃ part ∈ parts, c ∈ part := by
  induction parts with
  | nil => cases hc
  | cons first rest ih =>
    have hlater : c ∈ spaced rest → c = ' ' ∨ ∃ part ∈ first :: rest, c ∈ part := by
      intro hrest
      refine (ih hrest).imp_right fun ⟨part, hpart, hmem⟩ =>
        ⟨part, List.mem_cons_of_mem _ hpart, hmem⟩
    by_cases hfirst : first = []
    · rw [hfirst, spaced_nil_cons] at hc
      exact hlater hc
    · rw [spaced_cons hfirst, closing] at hc
      rcases List.mem_append.mp hc with hmem | hclosing
      · exact Or.inr ⟨first, List.mem_cons_self, hmem⟩
      · split at hclosing
        · cases hclosing
        · exact (List.mem_cons.mp hclosing).elim Or.inl hlater

/-- A line of trimmed parts is trimmed: its ends are ends of parts. -/
theorem trimmed_spaced (h : ∀ part ∈ parts, Trimmed part) : Trimmed (spaced parts) := by
  refine trimmed_joinWords fun part hpart => ?_
  obtain ⟨hmem, hne⟩ := List.mem_filter.mp hpart
  rw [Bool.not_eq_true', List.isEmpty_eq_false_iff] at hne
  exact ⟨hne, h part hmem⟩

/-- Trimming takes the space off what opens a line, so that cutting a line at a word gives back the
part before it. -/
theorem Trimmed.trimChars_opening (h : Trimmed cs) : trimChars (opening cs) = cs := by
  rw [opening]
  split
  next hnil =>
    rw [hnil]
    rfl
  · exact Text.trimChars_eq blanks_nil h blanks_space

theorem Trimmed.trimChars_closing (h : Trimmed cs) : trimChars (closing cs) = cs := by
  rw [closing]
  split
  next hnil =>
    rw [hnil]
    rfl
  · have htrim := Text.trimChars_eq blanks_space h blanks_nil
    rwa [List.append_nil] at htrim

end

/-! ## Words on a line -/

section

variable {word before after : List Char} {gap : Char}

/-- A word without blanks that stands in a text with a blank stands before the blank or behind it.
The two cases say what is left of either side. -/
theorem append_word_cases (hgap : isBlank gap = true) (hword : ∀ c ∈ word, isBlank c = false)
    {earlier later : List Char} (h : before ++ gap :: after = earlier ++ word ++ later) :
    (∃ between, before = earlier ++ word ++ between) ∨
      ∃ between, earlier = before ++ gap :: between ∧ after = between ++ word ++ later := by
  have hfree : gap ∉ word := by
    intro hmem
    rw [hword gap hmem] at hgap
    cases hgap
  -- The blank is behind the word, before it or inside it, and inside a word there is none.
  rcases List.append_eq_append_iff.mp h with ⟨tail, hfront, hback⟩ | ⟨between, hbefore, -⟩
  · cases tail with
    | nil => exact Or.inl ⟨[], by rw [hfront, List.append_nil, List.append_nil]⟩
    | cons c tail =>
      obtain ⟨rfl, hafter⟩ := List.cons.inj hback
      rcases List.append_eq_append_iff.mp hfront with ⟨part, -, hsplit⟩ | ⟨part, hearlier, hsplit⟩
      · exact absurd (hsplit ▸ List.mem_append_right _ List.mem_cons_self) hfree
      · cases part with
        | nil =>
          rw [List.nil_append] at hsplit
          exact absurd (hsplit ▸ List.mem_cons_self) hfree
        | cons c part =>
          obtain ⟨rfl, htail⟩ := List.cons.inj hsplit
          exact Or.inr ⟨part, hearlier, hafter.trans (congrArg (· ++ later) htail)⟩
  · exact Or.inl ⟨between, hbefore⟩

/-- Such a word is part of what is before the blank or of what is behind it. -/
theorem infix_or_infix_of_blank (hgap : isBlank gap = true) (hword : ∀ c ∈ word, isBlank c = false)
    (h : word <:+: before ++ gap :: after) : word <:+: before ∨ word <:+: after := by
  obtain ⟨earlier, later, heq⟩ := h
  rcases append_word_cases hgap hword heq.symm with ⟨between, hbefore⟩ | ⟨between, -, hafter⟩
  · exact Or.inl ⟨earlier, between, hbefore.symm⟩
  · exact Or.inr ⟨between, later, hafter.symm⟩

/-- **A word without blanks that is part of a line is part of one of the parts.** The spaces between
them are blanks, and the word reaches over none of them. -/
theorem infix_of_infix_spaced (hne : word ≠ []) (hword : ∀ c ∈ word, isBlank c = false)
    {parts : List (List Char)} (h : word <:+: spaced parts) : ∃ part ∈ parts, word <:+: part := by
  induction parts with
  | nil => exact absurd (List.infix_nil.mp h) hne
  | cons first rest ih =>
    have hlater : word <:+: spaced rest → ∃ part ∈ first :: rest, word <:+: part := by
      intro hrest
      obtain ⟨part, hpart, hwithin⟩ := ih hrest
      exact ⟨part, List.mem_cons_of_mem _ hpart, hwithin⟩
    by_cases hfirst : first = []
    · rw [hfirst, spaced_nil_cons] at h
      exact hlater h
    · rw [spaced_cons hfirst, closing] at h
      split at h
      · rw [List.append_nil] at h
        exact ⟨first, List.mem_cons_self, h⟩
      · rcases infix_or_infix_of_blank isBlank_space hword h with hwithin | hrest
        · exact ⟨first, List.mem_cons_self, hwithin⟩
        · exact hlater hrest

/-- A word without blanks that is not part of what opens a line stands behind the opening. -/
theorem length_opening_le (hword : ∀ c ∈ word, isBlank c = false) (hout : ¬ word <:+: before)
    {rest earlier later : List Char} (h : opening before ++ rest = earlier ++ word ++ later) :
    (opening before).length ≤ earlier.length := by
  rw [opening] at h ⊢
  split at h
  next hnil =>
    rw [if_pos hnil]
    exact Nat.zero_le _
  next hne =>
    rw [if_neg hne]
    rw [List.append_assoc, List.singleton_append] at h
    rcases append_word_cases isBlank_space hword h with ⟨between, hbefore⟩ | ⟨between, hearlier, -⟩
    · exact absurd ⟨earlier, between, hbefore.symm⟩ hout
    · rw [hearlier, List.length_append, List.length_append]
      exact Nat.add_le_add_left (Nat.succ_le_succ (Nat.zero_le _)) _

/-- **Such a word first stands right behind the opening** if it stands there. A query that is
written out again is cut at its street type because of this. -/
theorem firstAt_opening (hword : ∀ c ∈ word, isBlank c = false) (hout : ¬ word <:+: before)
    (after : List Char) :
    FirstAt word (opening before ++ word ++ after) (opening before) after where
  text_eq := rfl
  first earlier later heq := by
    rw [List.append_assoc] at heq
    exact length_opening_le hword hout heq

/-- The parts around a word and the word are parts of the text that it cuts, also without the blanks
at their ends. -/
theorem FirstAt.infix_text_of_mem {text part : List Char} (h : FirstAt word text before after)
    (hpart : part ∈ [trimChars before, word, trimChars after]) : part <:+: text := by
  rw [List.mem_cons, List.mem_cons, List.mem_singleton] at hpart
  rcases hpart with rfl | rfl | rfl
  · exact (trimChars_infix_self before).trans h.before_infix_text
  · exact h.word_infix_text
  · exact (trimChars_infix_self after).trans h.after_infix_text

end

end Gazetteer.Text

import Gazetteer.Proofs.Text.Lowercase
import Gazetteer.Proofs.Text.Words

/-!
# Texts without blanks at their ends

Trimming takes the blanks off both ends and nothing else, which determines it: if a text is a
trimmed one between blanks, then that one is what trimming leaves (`trimChars_eq`). Lowercasing
keeps a text trimmed, and so does joining trimmed parts with one space.
-/

namespace Gazetteer.Text

/-- A text that neither begins nor ends with a blank. The empty text is one. -/
structure Trimmed (cs : List Char) : Prop where
  first : ∀ c ∈ cs.head?, isBlank c = false
  last : ∀ c ∈ cs.getLast?, isBlank c = false

/-- A text of blanks only, or none. -/
def Blanks (cs : List Char) : Prop :=
  ∀ c ∈ cs, isBlank c = true

instance (cs : List Char) : Decidable (Blanks cs) :=
  List.decidableBAll (fun c => isBlank c = true) cs

theorem blanks_nil : Blanks [] :=
  List.forall_mem_nil _

theorem blanks_space : Blanks [' '] := by
  intro c hc
  rw [List.mem_singleton.mp hc]
  exact isBlank_space

theorem trimmed_nil : Trimmed [] :=
  ⟨nofun, nofun⟩

theorem trimmed_of_forall {cs : List Char} (h : ∀ c ∈ cs, isBlank c = false) : Trimmed cs :=
  ⟨fun c hc => h c (List.mem_of_mem_head? hc), fun c hc => h c (List.mem_of_mem_getLast? hc)⟩

/-- A trimmed text of blanks is empty. -/
theorem Trimmed.eq_nil_of_blanks {cs : List Char} (h : Trimmed cs) (hblanks : Blanks cs) :
    cs = [] := by
  cases cs with
  | nil => rfl
  | cons c rest =>
    have hfirst := h.first c rfl
    rw [hblanks c List.mem_cons_self] at hfirst
    nomatch hfirst

/-- There are no blanks behind a trimmed text. -/
theorem Trimmed.eq_nil_of_append {cs back : List Char} (h : Trimmed (cs ++ back))
    (hback : Blanks back) :
    back = [] := by
  by_cases hne : back = []
  · exact hne
  · have hlast := h.last (back.getLast hne)
      (by rw [List.getLast?_append, List.getLast?_eq_some_getLast hne, Option.some_or]; rfl)
    rw [hback _ (List.getLast_mem hne)] at hlast
    cases hlast

/-! ## What trimming leaves -/

/-- Blanks before a text that does not begin with one are all that goes at the start, and it is the
same at the end. -/
theorem trimStart_append {front mid : List Char} (hfront : Blanks front)
    (hmid : ∀ c ∈ mid.head?, isBlank c = false) : trimStart (front ++ mid) = mid := by
  rw [trimStart, List.dropWhile_append_of_pos hfront]
  cases mid with
  | nil => rfl
  | cons c rest => rw [List.dropWhile_cons_of_neg (by rw [hmid c rfl]; exact Bool.false_ne_true)]

theorem trimEnd_append {mid back : List Char} (hback : Blanks back)
    (hmid : ∀ c ∈ mid.getLast?, isBlank c = false) : trimEnd (mid ++ back) = mid := by
  have hstart : trimStart (back.reverse ++ mid.reverse) = mid.reverse := by
    refine trimStart_append (fun c hc => hback c (List.mem_reverse.mp hc)) fun c hc => hmid c ?_
    rwa [List.head?_reverse] at hc
  rw [trimStart] at hstart
  rw [trimEnd, List.reverse_append, hstart, List.reverse_reverse]

/-- **A trimmed text between blanks** is what trimming leaves. With `trimChars_spec` this says what
trimming is without saying how it is done. -/
theorem trimChars_eq {front mid back : List Char} (hfront : Blanks front) (hmid : Trimmed mid)
    (hback : Blanks back) : trimChars (front ++ mid ++ back) = mid := by
  rw [trimChars, List.append_assoc]
  cases mid with
  | nil =>
    have hall : Blanks (front ++ back) := List.forall_mem_append.mpr ⟨hfront, hback⟩
    have hstart : trimStart ((front ++ back) ++ []) = [] := trimStart_append hall nofun
    rw [List.append_nil] at hstart
    rw [List.nil_append, hstart]
    rfl
  | cons c rest =>
    have hstart : trimStart (front ++ (c :: rest ++ back)) = c :: rest ++ back :=
      trimStart_append hfront fun d hd => hmid.first d hd
    rw [hstart, trimEnd_append hback hmid.last]

theorem Trimmed.trimChars_eq {cs : List Char} (h : Trimmed cs) : trimChars cs = cs := by
  have hself := Text.trimChars_eq blanks_nil h blanks_nil
  rwa [List.nil_append, List.append_nil] at hself

/-- What goes at the start is blank, and what is left does not begin with a blank. -/
theorem trimStart_spec (cs : List Char) :
    ∃ front, cs = front ++ trimStart cs ∧ Blanks front ∧ ∀ c ∈ (trimStart cs).head?,
      isBlank c = false := by
  refine ⟨cs.takeWhile isBlank, List.takeWhile_append_dropWhile.symm,
    List.all_eq_true.mp List.all_takeWhile, fun c hc => ?_⟩
  have hfirst := List.head?_dropWhile_not isBlank cs
  rw [trimStart] at hc
  rwa [Option.mem_def.mp hc] at hfirst

theorem trimEnd_spec (cs : List Char) :
    ∃ back, cs = trimEnd cs ++ back ∧ Blanks back ∧ ∀ c ∈ (trimEnd cs).getLast?,
      isBlank c = false := by
  obtain ⟨front, hfront, hblanks, hfirst⟩ := trimStart_spec cs.reverse
  have hend : trimEnd cs = (trimStart cs.reverse).reverse := rfl
  refine ⟨front.reverse, ?_, fun c hc => hblanks c (List.mem_reverse.mp hc),
    fun c hc => hfirst c ?_⟩
  · rw [hend, ← List.reverse_append, ← hfront, List.reverse_reverse]
  · rwa [hend, List.getLast?_reverse] at hc

/-- **Every text is what trimming leaves of it, between blanks.** With this a text may be taken
apart without a look at how trimming goes. -/
theorem trimChars_spec (cs : List Char) :
    ∃ front back, cs = front ++ trimChars cs ++ back ∧ Blanks front ∧ Trimmed (trimChars cs) ∧
      Blanks back := by
  obtain ⟨front, hstart, hfront, hfirst⟩ := trimStart_spec cs
  obtain ⟨back, hend, hback, hlast⟩ := trimEnd_spec (trimStart cs)
  refine ⟨front, back, ?_, hfront, ⟨fun c hc => hfirst c ?_, hlast⟩, hback⟩
  · rw [trimChars, List.append_assoc, ← hend, ← hstart]
  · rw [trimChars] at hc
    rw [hend, List.head?_append, Option.mem_def.mp hc]
    rfl

theorem trimmed_trimChars (cs : List Char) : Trimmed (trimChars cs) := by
  obtain ⟨_, _, _, _, htrimmed, _⟩ := trimChars_spec cs
  exact htrimmed

/-- **Blanks around a text** do not change what trimming leaves of it, whatever the text is. -/
theorem trimChars_padded {front back : List Char} (hfront : Blanks front) (hback : Blanks back)
    (cs : List Char) : trimChars (front ++ cs ++ back) = trimChars cs := by
  obtain ⟨before, after, hcs, hbefore, htrimmed, hafter⟩ := trimChars_spec cs
  have hpadded : front ++ cs ++ back = (front ++ before) ++ trimChars cs ++ (after ++ back) := by
    conv => lhs; rw [hcs]
    simp only [List.append_assoc]
  rw [hpadded]
  exact trimChars_eq (List.forall_mem_append.mpr ⟨hfront, hbefore⟩) htrimmed
    (List.forall_mem_append.mpr ⟨hafter, hback⟩)

theorem trimChars_infix_self (cs : List Char) : trimChars cs <:+: cs := by
  obtain ⟨front, back, hcs, -, -, -⟩ := trimChars_spec cs
  exact ⟨front, back, hcs.symm⟩

/-- A text with characters keeps its first one when others are added. -/
theorem head?_append_of_ne_nil {cs : List Char} (hne : cs ≠ []) (after : List Char) :
    (cs ++ after).head? = cs.head? := by
  cases cs with
  | nil => exact absurd rfl hne
  | cons c rest => rfl

/-- Nothing is left of a text exactly if it is blank. -/
theorem trimChars_eq_nil_iff {cs : List Char} : trimChars cs = [] ↔ Blanks cs := by
  obtain ⟨front, back, hcs, hfront, htrimmed, hback⟩ := trimChars_spec cs
  constructor
  · intro hempty
    rw [hempty, List.append_nil] at hcs
    rw [hcs]
    exact List.forall_mem_append.mpr ⟨hfront, hback⟩
  · intro hblanks
    exact htrimmed.eq_nil_of_blanks fun c hc => hblanks c ((trimChars_infix_self cs).subset hc)

/-- A text that does not begin with a blank begins as it does trimmed. -/
theorem head?_trimChars {cs : List Char} (h : ∀ c ∈ cs.head?, isBlank c = false) :
    (trimChars cs).head? = cs.head? := by
  obtain ⟨back, hcs, hback, -⟩ := trimEnd_spec cs
  have hstart : trimStart cs = cs := by
    have hself := trimStart_append blanks_nil h
    rwa [List.nil_append] at hself
  rw [trimChars, hstart]
  by_cases hnil : trimEnd cs = []
  · rw [hnil, List.nil_append] at hcs
    cases cs with
    | nil => rfl
    | cons c rest =>
      have hblank := hback c (hcs ▸ List.mem_cons_self)
      rw [h c rfl] at hblank
      cases hblank
  · conv => rhs; rw [hcs]
    rw [head?_append_of_ne_nil hnil]

/-! ## Trimmed texts from trimmed texts -/

/-- What is added behind a text does not put a blank at its beginning. -/
theorem first_append {cs : List Char} (hne : cs ≠ []) (h : ∀ c ∈ cs.head?, isBlank c = false)
    (after : List Char) : ∀ c ∈ (cs ++ after).head?, isBlank c = false := by
  cases cs with
  | nil => exact absurd rfl hne
  | cons c rest => exact h

/-- What is put before a text does not put a blank at its end. -/
theorem last_append {cs : List Char} (hne : cs ≠ []) (h : ∀ c ∈ cs.getLast?, isBlank c = false)
    (before : List Char) : ∀ c ∈ (before ++ cs).getLast?, isBlank c = false := by
  intro c hc
  rw [List.getLast?_append, List.getLast?_eq_some_getLast hne, Option.some_or] at hc
  exact h c (by rwa [List.getLast?_eq_some_getLast hne])

/-- What one character of a text becomes in lowercase: some characters, and no blanks unless it is
one. This is all that trimming needs to know of lowercase. -/
theorem lowerFrom_cons (behind : Bool) (c : Char) (rest : List Char) :
    ∃ small before, lowerFrom behind (c :: rest) = small ++ lowerFrom before rest ∧ small ≠ [] ∧
      (isBlank c = false → ∀ d ∈ small, isBlank d = false) := by
  rw [lowerFrom]
  split
  · refine ⟨[_], _, rfl, List.cons_ne_nil _ _, fun _ d hd => ?_⟩
    rw [List.mem_singleton.mp hd]
    exact (settled_sigma _).2
  next hsigma =>
    exact ⟨_, _, rfl, lowerChar_ne_nil c, fun hc d hd => (mem_lowerChar hsigma hd).2 hc⟩

/-- **Lowercasing keeps a text trimmed.** Its first and its last character become characters that
are no blanks either. -/
theorem Trimmed.lowerFrom {cs : List Char} (h : Trimmed cs) (behind : Bool) :
    Trimmed (lowerFrom behind cs) where
  first := by
    cases cs with
    | nil => nofun
    | cons c rest =>
      obtain ⟨small, before, hlower, hne, hblank⟩ := lowerFrom_cons behind c rest
      rw [hlower]
      exact first_append hne (fun d hd => hblank (h.first c rfl) d (List.mem_of_mem_head? hd)) _
  last := by
    have hlast := h.last
    clear h
    induction cs generalizing behind with
    | nil => nofun
    | cons c rest ih =>
      obtain ⟨small, before, hlower, hne, hblank⟩ := lowerFrom_cons behind c rest
      rw [hlower]
      by_cases hrest : rest = []
      · subst hrest
        rw [Text.lowerFrom, List.append_nil]
        exact fun d hd => hblank (hlast c rfl) d (List.mem_of_mem_getLast? hd)
      · rw [List.getLast?_cons_of_ne_nil hrest] at hlast
        exact last_append (lowerFrom_ne_nil hrest before) (ih before hlast) small

/-! ## Texts as they are read -/

/-- The lowercase form of a trimmed text, as characters. -/
theorem toList_lowercase_trim (s : String) :
    (lowercase (trim s)).toList = Text.lowerFrom false (trimChars s.toList) := by
  rw [lowercase, trim, String.toList_ofList, String.toList_ofList]

/-- **A text in lowercase and without blanks around it** is trimmed, and it stays as it is in
lowercase. Queries are read in this form, and words of a lexicon are kept in it. -/
theorem settled_lowercase_trim (s : String) :
    Trimmed (lowercase (trim s)).toList ∧ ∀ c ∈ (lowercase (trim s)).toList, Settled c := by
  rw [toList_lowercase_trim]
  exact ⟨(trimmed_trimChars _).lowerFrom false, fun c hc => (mem_lowerFrom hc).1⟩

/-- A text of settled characters is its own lowercase form. -/
theorem lowercase_eq_self {s : String} (h : ∀ c ∈ s.toList, Settled c) : lowercase s = s := by
  rw [lowercase, lowerFrom_eq_self h, String.ofList_toList]

/-- The texts in lowercase are those of settled characters. -/
theorem lowercase_eq_self_iff {s : String} : lowercase s = s ↔ ∀ c ∈ s.toList, Settled c := by
  constructor
  · intro h c hc
    rw [← h, lowercase, String.toList_ofList] at hc
    exact (mem_lowerFrom hc).1
  · exact lowercase_eq_self

theorem trim_eq_self {s : String} (h : Trimmed s.toList) : trim s = s := by
  rw [trim, h.trimChars_eq, String.ofList_toList]

/-! ## Trimmed parts -/

/-- Something is joined where the first part is not empty. -/
theorem joinWords_ne_nil {part : List Char} (h : part ≠ []) (rest : List (List Char)) :
    joinWords (part :: rest) ≠ [] := by
  cases rest with
  | nil => exact h
  | cons next rest => exact List.append_ne_nil_of_left_ne_nil h _

/-- **Trimmed parts joined with one space** are trimmed, if none of them is empty. -/
theorem trimmed_joinWords {parts : List (List Char)}
    (h : ∀ part ∈ parts, part ≠ [] ∧ Trimmed part) :
    Trimmed (joinWords parts) := by
  induction parts with
  | nil => exact trimmed_nil
  | cons part rest ih =>
    obtain ⟨⟨hne, hpart⟩, hrest⟩ := List.forall_mem_cons.mp h
    cases rest with
    | nil => exact hpart
    | cons next rest =>
      have hnext := (List.forall_mem_cons.mp hrest).1
      rw [joinWords_cons_cons]
      refine ⟨first_append hne hpart.first _, ?_⟩
      rw [← List.singleton_append, ← List.append_assoc]
      exact last_append (joinWords_ne_nil hnext.1 rest) (ih hrest).last _

end Gazetteer.Text

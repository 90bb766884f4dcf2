import Gazetteer.Proofs.Text.Occurrence
import Gazetteer.Proofs.Text.Wordwise
import Mathlib.Data.List.Chain

/-!
# One space for each run of blanks

`spaceOnce` goes over a text and writes one space for each run of blanks; it has to know only
whether a blank is right behind it. Around a solid character it does its work on either side
(`spaceOnce_append_cons`), and a solid character that it has written stood in the text
(`exists_of_spaceOnce_eq`). So **a word without blanks first stands in the spaced text where it
first stands in the text** (`firstAt_spaceOnce`), and of two such words the same one stands first
(`length_spaceOnce_lt`).

What it leaves is the words with one space between them, but for blanks at the ends
(`trimChars_spaceOnce`). A text that is spaced so already (`SingleSpaced`) is its own words with one
space between them (`singleSpaced_iff`).
-/

namespace Gazetteer.Text

/-- **The text with one space for each run of blanks**, where a blank may be right behind it. -/
def spaceOnce (behind : Bool) : List Char → List Char
  | [] => []
  | c :: rest =>
    if isBlank c then (if behind then spaceOnce true rest else ' ' :: spaceOnce true rest)
    else c :: spaceOnce false rest

variable {behind : Bool} {c gap : Char} {word text before after : List Char}

/-! ## Character by character -/

/-- A solid character stays, the first of some blanks leaves a space, and later ones leave
nothing. -/
theorem spaceOnce_cons_solid (hc : isBlank c = false) (behind : Bool) (rest : List Char) :
    spaceOnce behind (c :: rest) = c :: spaceOnce false rest := by
  rw [spaceOnce, if_neg (by rw [hc]; exact Bool.false_ne_true)]

theorem spaceOnce_cons_first (hgap : isBlank gap = true) (rest : List Char) :
    spaceOnce false (gap :: rest) = ' ' :: spaceOnce true rest := by
  rw [spaceOnce, if_pos hgap, if_neg Bool.false_ne_true]

theorem spaceOnce_cons_later (hgap : isBlank gap = true) (rest : List Char) :
    spaceOnce true (gap :: rest) = spaceOnce true rest := by
  rw [spaceOnce, if_pos hgap, if_pos rfl]

/-- The first character stays the first one, as a space if it is a blank. -/
theorem head?_spaceOnce (cs : List Char) :
    (spaceOnce false cs).head? = cs.head?.map fun c => if isBlank c then ' ' else c := by
  cases cs with
  | nil => rfl
  | cons c rest =>
    cases hc : isBlank c with
    | true => simp only [spaceOnce_cons_first hc, List.head?_cons, Option.map_some, hc, if_true]
    | false => simp only [spaceOnce_cons_solid hc, List.head?_cons, Option.map_some, hc,
      Bool.false_eq_true, if_false]

theorem spaceOnce_eq_nil_iff {cs : List Char} : spaceOnce false cs = [] ↔ cs = [] := by
  rw [← List.head?_eq_none_iff, head?_spaceOnce, Option.map_eq_none_iff, List.head?_eq_none_iff]

/-- A text is blank exactly if it is blank after spacing. -/
theorem all_isBlank_spaceOnce (behind : Bool) (cs : List Char) :
    (spaceOnce behind cs).all isBlank = cs.all isBlank := by
  induction cs generalizing behind with
  | nil => rfl
  | cons c rest ih =>
    cases hc : isBlank c with
    | true => cases behind <;> simp [spaceOnce, hc, ih, isBlank_space]
    | false => simp [spaceOnce_cons_solid hc, hc]

/-- A beginning is spaced as it is on its own. How the rest is spaced depends on whether the
beginning ends with a blank. -/
theorem exists_spaceOnce_append (behind : Bool) (before after : List Char) :
    ∃ later,
      spaceOnce behind (before ++ after) = spaceOnce behind before ++ spaceOnce later after := by
  induction before generalizing behind with
  | nil => exact ⟨behind, rfl⟩
  | cons c rest ih =>
    cases hc : isBlank c with
    | true =>
      obtain ⟨later, h⟩ := ih true
      refine ⟨later, ?_⟩
      cases behind with
      | true => rw [List.cons_append, spaceOnce_cons_later hc, spaceOnce_cons_later hc, h]
      | false => rw [List.cons_append, spaceOnce_cons_first hc, spaceOnce_cons_first hc, h,
        List.cons_append]
    | false =>
      obtain ⟨later, h⟩ := ih false
      exact ⟨later, by rw [List.cons_append, spaceOnce_cons_solid hc, spaceOnce_cons_solid hc, h,
        List.cons_append]⟩

/-! ## Around solid characters -/

/-- **A solid character parts a text** for spacing: what is before it and what is behind it are
spaced by themselves. -/
theorem spaceOnce_append_cons (hc : isBlank c = false) (behind : Bool) (before after : List Char) :
    spaceOnce behind (before ++ c :: after) = spaceOnce behind before ++ c ::
      spaceOnce false after := by
  obtain ⟨later, h⟩ := exists_spaceOnce_append behind before (c :: after)
  rw [h, spaceOnce_cons_solid hc]

/-- Solid characters at the beginning stay. -/
theorem spaceOnce_solid_append (hword : ∀ c ∈ word, isBlank c = false) (after : List Char) :
    spaceOnce false (word ++ after) = word ++ spaceOnce false after := by
  induction word with
  | nil => rfl
  | cons c rest ih =>
    obtain ⟨hc, hrest⟩ := List.forall_mem_cons.mp hword
    rw [List.cons_append, spaceOnce_cons_solid hc, ih hrest, List.cons_append]

/-- A text without blanks stays as it is. -/
theorem spaceOnce_eq_self (hword : ∀ c ∈ word, isBlank c = false) (behind : Bool) :
    spaceOnce behind word = word := by
  cases word with
  | nil => rfl
  | cons c rest =>
    obtain ⟨hc, hrest⟩ := List.forall_mem_cons.mp hword
    have hstays := spaceOnce_solid_append hrest []
    rw [List.append_nil] at hstays
    rw [spaceOnce_cons_solid hc, hstays]
    exact congrArg (c :: ·) (List.append_nil rest)

/-- **A word without blanks parts a text** for spacing. On its right side there is no blank right
behind, whatever there was on its left. -/
theorem spaceOnce_append_word (hne : word ≠ []) (hword : ∀ c ∈ word, isBlank c = false)
    (behind : Bool) (before after : List Char) :
    spaceOnce behind (before ++ word ++ after) = spaceOnce behind before ++ word ++
      spaceOnce false after := by
  cases word with
  | nil => exact absurd rfl hne
  | cons c rest =>
    obtain ⟨hc, hrest⟩ := List.forall_mem_cons.mp hword
    rw [List.append_assoc, List.cons_append, spaceOnce_append_cons hc, spaceOnce_solid_append hrest,
      List.append_assoc, List.cons_append]

/-- **A solid character that is written stood in the text**, between what is written on either side.
This is where the places of a spaced text are led back to places of the text. -/
theorem exists_of_spaceOnce_eq (hc : isBlank c = false) {earlier later : List Char}
    (h : spaceOnce behind text = earlier ++ c :: later) :
    ∃ before after, text = before ++ c :: after ∧ spaceOnce behind before = earlier ∧
      spaceOnce false after = later := by
  induction text generalizing behind earlier with
  | nil =>
    exact absurd h.symm (List.append_ne_nil_of_right_ne_nil earlier (List.cons_ne_nil c later))
  | cons d rest ih =>
    cases hd : isBlank d with
    | false =>
      rw [spaceOnce_cons_solid hd] at h
      cases earlier with
      | nil =>
        obtain ⟨rfl, hlater⟩ := List.cons.inj h
        exact ⟨[], rest, rfl, rfl, hlater⟩
      | cons e earlier =>
        obtain ⟨rfl, hrest⟩ := List.cons.inj h
        obtain ⟨before, after, rfl, rfl, hafter⟩ := ih hrest
        exact ⟨d :: before, after, rfl, spaceOnce_cons_solid hd _ _, hafter⟩
    | true =>
      cases behind with
      | true =>
        rw [spaceOnce_cons_later hd] at h
        obtain ⟨before, after, rfl, rfl, hafter⟩ := ih h
        exact ⟨d :: before, after, rfl, spaceOnce_cons_later hd _, hafter⟩
      | false =>
        rw [spaceOnce_cons_first hd] at h
        -- What is written here is a space and not the solid character, so it is before that.
        cases earlier with
        | nil =>
          obtain ⟨rfl, -⟩ := List.cons.inj h
          rw [isBlank_space] at hc
          cases hc
        | cons e earlier =>
          obtain ⟨rfl, hrest⟩ := List.cons.inj h
          obtain ⟨before, after, rfl, rfl, hafter⟩ := ih hrest
          exact ⟨d :: before, after, rfl, spaceOnce_cons_first hd _, hafter⟩

/-- Solid characters that are written at the beginning stood there. -/
theorem exists_of_spaceOnce_eq_append (hword : ∀ c ∈ word, isBlank c = false) {later : List Char}
    (h : spaceOnce false text = word ++ later) :
    ∃ after, text = word ++ after ∧ spaceOnce false after = later := by
  induction word generalizing text with
  | nil => exact ⟨text, rfl, h⟩
  | cons c rest ih =>
    obtain ⟨hc, hrest⟩ := List.forall_mem_cons.mp hword
    cases text with
    | nil => cases h
    | cons d text =>
      cases hd : isBlank d with
      | true =>
        rw [spaceOnce_cons_first hd] at h
        obtain ⟨rfl, -⟩ := List.cons.inj h
        rw [isBlank_space] at hc
        cases hc
      | false =>
        rw [spaceOnce_cons_solid hd] at h
        obtain ⟨rfl, htext⟩ := List.cons.inj h
        obtain ⟨after, rfl, hafter⟩ := ih hrest htext
        exact ⟨after, rfl, hafter⟩

/-- **So did a word without blanks**, between texts that are spaced to what is around it. -/
theorem exists_of_spaceOnce_eq_word (hne : word ≠ []) (hword : ∀ c ∈ word, isBlank c = false)
    {earlier later : List Char} (h : spaceOnce behind text = earlier ++ word ++ later) :
    ∃ before after, text = before ++ word ++ after ∧ spaceOnce behind before = earlier ∧
      spaceOnce false after = later := by
  cases word with
  | nil => exact absurd rfl hne
  | cons c rest =>
    obtain ⟨hc, hrest⟩ := List.forall_mem_cons.mp hword
    rw [List.append_assoc, List.cons_append] at h
    obtain ⟨before, between, rfl, hbefore, hbetween⟩ := exists_of_spaceOnce_eq hc h
    obtain ⟨after, rfl, hafter⟩ := exists_of_spaceOnce_eq_append hrest hbetween
    exact ⟨before, after, by rw [List.append_assoc, List.cons_append], hbefore, hafter⟩

/-! ## Places of words -/

/-- **A word without blanks is part of the spaced text exactly if it is part of the text.** Spacing
moves characters together only where a blank was between them, and it leaves a space there. -/
theorem infix_spaceOnce_iff (hne : word ≠ []) (hword : ∀ c ∈ word, isBlank c = false) :
    word <:+: spaceOnce behind text ↔ word <:+: text := by
  constructor
  · rintro ⟨earlier, later, h⟩
    obtain ⟨before, after, htext, -, -⟩ := exists_of_spaceOnce_eq_word hne hword h.symm
    exact ⟨before, after, htext.symm⟩
  · rintro ⟨before, after, rfl⟩
    exact ⟨spaceOnce behind before, spaceOnce false after,
      (spaceOnce_append_word hne hword _ _ _).symm⟩

/-- **A word without blanks first stands where it did**, seen in the text and in the spaced one. An
earlier place in the spaced text would be led back to an earlier one in the text. -/
theorem firstAt_spaceOnce (h : FirstAt word text before after) (hne : word ≠ [])
    (hword : ∀ c ∈ word, isBlank c = false) (behind : Bool) :
    FirstAt word (spaceOnce behind text) (spaceOnce behind before) (spaceOnce false after) where
  text_eq := by rw [h.text_eq, spaceOnce_append_word hne hword]
  first earlier later heq := by
    obtain ⟨front, back, htext, rfl, -⟩ := exists_of_spaceOnce_eq_word hne hword heq
    have hle := h.first front back htext
    -- The first place is in the text before the other, and a beginning leaves no more than the
    -- whole.
    rw [List.append_assoc] at htext
    obtain ⟨between, rfl⟩ :=
      List.prefix_of_prefix_length_le h.before_prefix_text ⟨_, htext.symm⟩ hle
    obtain ⟨next, hspaced⟩ := exists_spaceOnce_append behind before between
    rw [hspaced, List.length_append]
    exact Nat.le_add_right _ _

/-- **Cutting a spaced text at a word** leaves the parts that the text is cut into, spaced. -/
theorem splitAtWord_spaceOnce (hne : word ≠ []) (hword : ∀ c ∈ word, isBlank c = false)
    (behind : Bool) (text : List Char) :
    splitAtWord word (spaceOnce behind text) =
      (splitAtWord word text).map fun parts =>
        (spaceOnce behind parts.1, spaceOnce false parts.2) := by
  cases hsplit : splitAtWord word text with
  | none =>
    rw [splitAtWord_eq_none_iff] at hsplit
    rw [Option.map_none, splitAtWord_eq_none_iff, infix_spaceOnce_iff hne hword]
    exact hsplit
  | some parts =>
    rw [Option.map_some, splitAtWord_eq_some_iff]
    exact firstAt_spaceOnce (splitAtWord_eq_some_iff.mp hsplit) hne hword behind

/-- **Words keep the order of their places**: a solid character is between them, the first of the
earlier word. -/
theorem length_spaceOnce_lt (h : FirstAt word text before after) (hne : word ≠ [])
    (hword : ∀ c ∈ word, isBlank c = false) {front back : List Char} (htext : text = front ++ back)
    (hlt : before.length < front.length) (behind : Bool) :
    (spaceOnce behind before).length < (spaceOnce behind front).length := by
  obtain ⟨between, rfl⟩ :=
    List.prefix_of_prefix_length_le h.before_prefix_text ⟨_, htext.symm⟩ (Nat.le_of_lt hlt)
  cases word with
  | nil => exact absurd rfl hne
  | cons c rest =>
    cases between with
    | nil =>
      rw [List.append_nil] at hlt
      exact absurd hlt (Nat.lt_irrefl _)
    | cons d between =>
      have heq := h.text_eq
      rw [htext, List.append_assoc, List.append_assoc, List.append_cancel_left_eq] at heq
      obtain ⟨rfl, -⟩ := List.cons.inj heq
      rw [spaceOnce_append_cons (List.forall_mem_cons.mp hword).1, List.length_append,
        List.length_cons]
      omega

/-! ## Words -/

/-- Behind a blank, spacing leaves the words with one space between them, and perhaps a space at the
end. -/
theorem exists_spaceOnce_eq (cs : List Char) :
    ∃ back, spaceOnce true cs = joinWords (wordsOf cs) ++ back ∧ Blanks back := by
  have hcut : CutsTo (fun c => !isBlank c) cs (wordsOf cs) := cutsTo_runs cs
  generalize wordsOf cs = words at hcut ⊢
  induction hcut with
  | nil => exact ⟨[], rfl, blanks_nil⟩
  | reject hc _ ih => rwa [spaceOnce_cons_later ((Bool.not_eq_false' _).mp hc)]
  | @alone c rest words hc hnext h ih =>
    obtain ⟨back, hspaced, hback⟩ := ih
    rw [spaceOnce_cons_solid ((Bool.not_eq_true' _).mp hc)]
    cases rest with
    | nil =>
      cases h
      exact ⟨[], rfl, blanks_nil⟩
    | cons d rest =>
      -- The word ends, and the space belongs between words if there are more.
      have hd : isBlank d = true := (Bool.not_eq_false' _).mp (hnext d rfl)
      rw [spaceOnce_cons_later hd] at hspaced
      rw [spaceOnce_cons_first hd, hspaced]
      cases words with
      | nil => exact ⟨' ' :: back, rfl, List.forall_mem_cons.mpr ⟨isBlank_space, hback⟩⟩
      | cons next more => exact ⟨back, rfl, hback⟩
  | @join c d rest word more hc hd _ ih =>
    -- The word goes on, and so it does not matter what is behind it.
    obtain ⟨back, hspaced, hback⟩ := ih
    have hnext := (Bool.not_eq_true' _).mp hd
    rw [spaceOnce_cons_solid hnext] at hspaced
    rw [spaceOnce_cons_solid ((Bool.not_eq_true' _).mp hc), spaceOnce_cons_solid hnext, hspaced,
      joinWords_cons_char c]
    exact ⟨back, rfl, hback⟩

/-- Words with one space between them are trimmed. -/
theorem trimmed_joinWords_wordsOf (cs : List Char) : Trimmed (joinWords (wordsOf cs)) :=
  trimmed_joinWords fun _ hword =>
    ⟨(isWord_of_mem_wordsOf hword).1, trimmed_of_forall (isWord_of_mem_wordsOf hword).2⟩

/-- **Without blanks at its ends a spaced text is its words with one space between them.** -/
theorem trimChars_spaceOnce (behind : Bool) (cs : List Char) :
    trimChars (spaceOnce behind cs) = joinWords (wordsOf cs) := by
  obtain ⟨back, hspaced, hback⟩ := exists_spaceOnce_eq cs
  have hlater : trimChars (spaceOnce true cs) = joinWords (wordsOf cs) := by
    rw [hspaced]
    exact trimChars_eq blanks_nil (trimmed_joinWords_wordsOf cs) hback
  cases behind with
  | true => exact hlater
  | false =>
    cases cs with
    | nil => exact hlater
    | cons c rest =>
      cases hc : isBlank c with
      | false => rwa [spaceOnce_cons_solid hc] at hlater ⊢
      | true =>
        rw [spaceOnce_cons_later hc] at hlater
        rw [spaceOnce_cons_first hc, ← hlater]
        have hpadded := trimChars_padded blanks_space blanks_nil (spaceOnce true rest)
        rwa [List.append_nil] at hpadded

/-- **A trimmed text** is spaced as its words: with no blank at its ends there is no space to lose
there. -/
theorem Trimmed.spaceOnce_eq {cs : List Char} (h : Trimmed cs) :
    spaceOnce false cs = joinWords (wordsOf cs) := by
  have htrimmed : Trimmed (spaceOnce false cs) := by
    refine ⟨fun c hc => ?_, fun c hc => ?_⟩
    · rw [head?_spaceOnce] at hc
      obtain ⟨d, hd, rfl⟩ := Option.map_eq_some_iff.mp hc
      rw [if_neg (by rw [h.first d hd]; exact Bool.false_ne_true)]
      exact h.first d hd
    · rcases List.eq_nil_or_concat' cs with rfl | ⟨before, last, rfl⟩
      · cases hc
      · have hlast := h.last last List.getLast?_concat
        rw [spaceOnce_append_cons hlast] at hc
        rw [← Option.some.inj (List.getLast?_concat.symm.trans hc)]
        exact hlast
  rw [← trimChars_spaceOnce false cs, htrimmed.trimChars_eq]

/-! ## Texts that are spaced once -/

/-- **A text with single spaces**: no blank at either end, none but the space, and no two in a
row. -/
structure SingleSpaced (cs : List Char) : Prop where
  trimmed : Trimmed cs
  space : ∀ c ∈ cs, isBlank c = true → c = ' '
  apart : cs.IsChain fun c d => isBlank c = false ∨ isBlank d = false

/-- Where spaces are single there is nothing to space. -/
theorem spaceOnce_of_apart {cs : List Char} (hspace : ∀ c ∈ cs, isBlank c = true → c = ' ')
    (hapart : cs.IsChain fun c d => isBlank c = false ∨ isBlank d = false) :
    spaceOnce false cs = cs := by
  induction cs with
  | nil => rfl
  | cons c rest ih =>
    obtain ⟨hc, hrest⟩ := List.forall_mem_cons.mp hspace
    have hself := ih hrest hapart.tail
    cases hblank : isBlank c with
    | false => rw [spaceOnce_cons_solid hblank, hself]
    | true =>
      rw [spaceOnce_cons_first hblank, hc hblank]
      cases rest with
      | nil => rfl
      | cons d rest =>
        -- The next character is solid, so it does not matter that a space is behind it.
        have hsolid : isBlank d = false :=
          (List.isChain_cons_cons.mp hapart).1.resolve_left (by rw [hblank]; exact Bool.noConfusion)
        rw [spaceOnce_cons_solid hsolid] at hself ⊢
        rw [hself]

/-- **Words joined with one space have single spaces.** -/
theorem singleSpaced_joinWords {ws : List (List Char)} (h : ∀ w ∈ ws, IsWord w) :
    SingleSpaced (joinWords ws) where
  trimmed := trimmed_joinWords fun w hw => ⟨(h w hw).1, trimmed_of_forall (h w hw).2⟩
  space c hc hblank := by
    rcases mem_joinWords hc with hspace | ⟨w, hw, hmem⟩
    · exact hspace
    · rw [(h w hw).2 c hmem] at hblank
      cases hblank
  apart := by
    have hsolid : ∀ {w : List Char}, IsWord w → w.IsChain fun c d =>
        isBlank c = false ∨ isBlank d = false :=
      fun hw => (List.pairwise_of_forall_mem_list fun c hc _ _ => Or.inl (hw.2 c hc)).isChain
    induction ws with
    | nil => exact List.isChain_nil
    | cons w rest ih =>
      obtain ⟨hw, hrest⟩ := List.forall_mem_cons.mp h
      cases rest with
      | nil => exact hsolid hw
      | cons next rest =>
        have hfirst : ∀ c ∈ (joinWords (next :: rest)).head?, isBlank c = false :=
          (trimmed_joinWords fun w hw => ⟨(hrest w hw).1, trimmed_of_forall (hrest w hw).2⟩).first
        rw [joinWords_cons_cons, List.isChain_append]
        -- The space between two words has a solid character on either side.
        refine ⟨hsolid hw, List.isChain_cons.mpr ⟨fun d hd => Or.inr (hfirst d hd), ih hrest⟩,
          fun c hc _ _ => ?_⟩
        exact Or.inl (hw.2 c (List.mem_of_mem_getLast? hc))

/-- **The texts with single spaces are those that are their words with one space between them.** So
there is one such text for each list of words. -/
theorem singleSpaced_iff {cs : List Char} : SingleSpaced cs ↔ joinWords (wordsOf cs) = cs := by
  constructor
  · intro h
    rw [← h.trimmed.spaceOnce_eq, spaceOnce_of_apart h.space h.apart]
  · intro h
    rw [← h]
    exact singleSpaced_joinWords fun _ hword => isWord_of_mem_wordsOf hword

end Gazetteer.Text

import Gazetteer.Text.Blank

/-!
# Runs, words and their joining

A character that is not accepted separates: the runs before it and the runs after it are the runs of
the whole (`runs_append_gap`). So a text of accepted characters is its own only run, and words
joined with one space are read back as the same words (`wordsOf_joinWords`).

The clauses of `runs` look two characters ahead. `CutsTo` says the same character by character from
the end of the text, and facts about all runs are inductions on it.

The joined form grows with the text: lengthening the last word, or adding words, only adds
characters at the end (`joinWords_prefix`).
-/

namespace Gazetteer.Text

variable {accepts : Char → Bool}

/-! ## Runs -/

/-- A character that is not accepted is in no run. -/
theorem runs_cons_reject {c : Char} (hc : accepts c = false) (rest : List Char) :
    runs accepts (c :: rest) = runs accepts rest := by
  simp [runs, hc]

/-- An accepted character joins the run that opens right after it. -/
theorem runs_cons_join {c d : Char} (hc : accepts c = true) (hd : accepts d = true)
    (rest : List Char) :
    runs accepts (c :: d :: rest) = (runs accepts (d :: rest)).modifyHead (c :: ·) := by
  rw [runs, if_pos hc]
  simp only [hd, if_true]

/-- An accepted character before a gap is a run of its own. -/
theorem runs_cons_gap {c d : Char} (hc : accepts c = true) (hd : accepts d = false)
    (rest : List Char) : runs accepts (c :: d :: rest) = [c] :: runs accepts rest := by
  rw [runs, if_pos hc]
  simp only [hd, Bool.false_eq_true, if_false, runs_cons_reject hd]

/-- An accepted character opens a run, however the text goes on. -/
theorem runs_cons_accept {c : Char} (hc : accepts c = true) (rest : List Char) :
    ∃ run more, runs accepts (c :: rest) = (c :: run) :: more := by
  induction rest generalizing c with
  | nil => exact ⟨[], [], by simp [runs, hc]⟩
  | cons d rest ih =>
    cases hd : accepts d with
    | false => exact ⟨[], _, runs_cons_gap hc hd rest⟩
    | true =>
      obtain ⟨run, more, h⟩ := ih hd
      exact ⟨d :: run, more, by rw [runs_cons_join hc hd, h, List.modifyHead_cons]⟩

/-- The runs of a text, character by character from its end: a character is passed over, stands
alone, or joins the run that opens right after it. An induction over this relation has the cases of
`runs` and nothing else to take apart. -/
inductive CutsTo (accepts : Char → Bool) : List Char → List (List Char) → Prop
  | nil : CutsTo accepts [] []
  | reject {c : Char} {rest : List Char} {found : List (List Char)} (hc : accepts c = false)
      (h : CutsTo accepts rest found) : CutsTo accepts (c :: rest) found
  | alone {c : Char} {rest : List Char} {found : List (List Char)} (hc : accepts c = true)
      (hnext : ∀ d ∈ rest.head?, accepts d = false) (h : CutsTo accepts rest found) :
      CutsTo accepts (c :: rest) ([c] :: found)
  | join {c d : Char} {rest run : List Char} {more : List (List Char)} (hc : accepts c = true)
      (hd : accepts d = true) (h : CutsTo accepts (d :: rest) (run :: more)) :
      CutsTo accepts (c :: d :: rest) ((c :: run) :: more)

/-- Every text cuts to its runs. -/
theorem cutsTo_runs (cs : List Char) : CutsTo accepts cs (runs accepts cs) := by
  induction cs with
  | nil => exact .nil
  | cons c rest ih =>
    cases hc : accepts c with
    | false => exact runs_cons_reject hc rest ▸ .reject hc ih
    | true =>
      -- The next character decides whether the run that is open goes on.
      cases rest with
      | nil =>
        rw [show runs accepts [c] = [[c]] by simp [runs, hc]]
        exact .alone hc (fun d hd => by cases hd) .nil
      | cons d rest =>
        cases hd : accepts d with
        | false =>
          rw [runs_cons_reject hd] at ih
          rw [runs_cons_gap hc hd]
          refine .alone hc (fun e he => ?_) ih
          cases he
          exact hd
        | true =>
          obtain ⟨run, more, hruns⟩ := runs_cons_accept hd rest
          rw [hruns] at ih
          rw [runs_cons_join hc hd, hruns]
          exact .join hc hd ih

/-- And it cuts to nothing else, so that to give the runs of a text is to build them up. -/
theorem CutsTo.runs_eq {cs : List Char} {found : List (List Char)} (h : CutsTo accepts cs found) :
    runs accepts cs = found := by
  induction h with
  | nil => rfl
  | reject hc _ ih => rw [runs_cons_reject hc, ih]
  | @alone c rest found hc hnext _ ih =>
    cases rest with
    | nil =>
      cases ih
      simp [runs, hc]
    | cons d rest =>
      rw [runs_cons_gap hc (hnext d rfl), ← ih, runs_cons_reject (hnext d rfl)]
  | join hc hd _ ih =>
    rw [runs_cons_join hc hd, ih, List.modifyHead_cons]

/-- **The runs together are what is accepted.** Cutting a text loses what is between its runs, and
nothing else. -/
theorem flatten_runs (cs : List Char) : (runs accepts cs).flatten = cs.filter accepts := by
  have hcut : CutsTo accepts cs _ := cutsTo_runs cs
  generalize runs accepts cs = found at hcut ⊢
  induction hcut with
  | nil => rfl
  | reject hc _ ih => rw [ih, List.filter_cons_of_neg (by simp [hc])]
  | alone hc _ _ ih => rw [List.flatten_cons, ih, List.filter_cons_of_pos hc, List.singleton_append]
  | join hc _ _ ih =>
    rw [List.filter_cons_of_pos hc, ← ih, List.flatten_cons, List.flatten_cons, List.cons_append]

/-- **A gap separates**: the runs are those before it and those after it. A text may so be cut at
any blank, and its parts be looked at one by one. -/
theorem runs_append_gap (before after : List Char) {gap : Char} (hgap : accepts gap = false) :
    runs accepts (before ++ gap :: after) = runs accepts before ++ runs accepts after := by
  refine CutsTo.runs_eq ?_
  have hcut : CutsTo accepts before _ := cutsTo_runs before
  generalize runs accepts before = found at hcut ⊢
  induction hcut with
  | nil => exact .reject hgap (cutsTo_runs after)
  | reject hc _ ih => exact .reject hc ih
  | @alone c rest found hc hnext _ ih =>
    refine .alone hc (fun d hd => ?_) ih
    cases rest with
    | nil =>
      cases hd
      exact hgap
    | cons e rest => exact hnext d hd
  | join hc hd _ ih => exact .join hc hd ih

/-- Accepted characters without a gap are one run. -/
theorem runs_of_all {run : List Char} (hne : run ≠ []) (h : ∀ c ∈ run, accepts c = true) :
    runs accepts run = [run] := by
  induction run with
  | nil => exact absurd rfl hne
  | cons c rest ih =>
    obtain ⟨hc, hrest⟩ := List.forall_mem_cons.mp h
    cases rest with
    | nil => simp [runs, hc]
    | cons d rest =>
      rw [runs_cons_join hc (hrest d List.mem_cons_self), ih (List.cons_ne_nil _ _) hrest,
        List.modifyHead_cons]

/-- Every run has a character, and all its characters are accepted. -/
theorem CutsTo.mem {cs : List Char} {found : List (List Char)} (h : CutsTo accepts cs found) :
    ∀ run ∈ found, run ≠ [] ∧ ∀ c ∈ run, accepts c = true := by
  induction h with
  | nil =>
    intro run hrun
    cases hrun
  | reject _ _ ih => exact ih
  | alone hc _ _ ih =>
    refine List.forall_mem_cons.mpr ⟨⟨List.cons_ne_nil _ _, fun e he => ?_⟩, ih⟩
    exact List.mem_singleton.mp he ▸ hc
  | join hc _ _ ih =>
    obtain ⟨⟨-, hrun⟩, hmore⟩ := List.forall_mem_cons.mp ih
    refine List.forall_mem_cons.mpr ⟨⟨List.cons_ne_nil _ _, ?_⟩, hmore⟩
    exact List.forall_mem_cons.mpr ⟨hc, hrun⟩

/-- Every run has a character, and all its characters are accepted: `CutsTo.mem` for the runs of a
text. -/
theorem mem_runs {cs run : List Char} (h : run ∈ runs accepts cs) :
    run ≠ [] ∧ ∀ c ∈ run, accepts c = true :=
  (cutsTo_runs cs).mem run h

/-- Replacing characters by others that are accepted alike keeps the runs. Changing the case of
letters is such a replacement, both for words and for index terms. -/
theorem runs_map {f : Char → Char} (h : ∀ c, accepts (f c) = accepts c) (cs : List Char) :
    runs accepts (cs.map f) = (runs accepts cs).map (List.map f) := by
  refine CutsTo.runs_eq ?_
  have hcut : CutsTo accepts cs _ := cutsTo_runs cs
  generalize runs accepts cs = found at hcut ⊢
  induction hcut with
  | nil => exact .nil
  | reject hc _ ih => exact .reject ((h _).trans hc) ih
  | @alone c rest found hc hnext _ ih =>
    refine .alone ((h c).trans hc) (fun d hd => ?_) ih
    rw [List.head?_map] at hd
    obtain ⟨e, he, rfl⟩ := Option.map_eq_some_iff.mp hd
    exact (h e).trans (hnext e he)
  | join hc hd _ ih => exact .join ((h _).trans hc) ((h _).trans hd) ih

/-- **The runs of a beginning begin the runs of the text**, run by run: all but the last are whole.
The last one may still be going on in the text, which is why it is only said to begin the run at its
place. -/
theorem getElem?_runs_of_prefix {beginning cs : List Char} (h : beginning <+: cs) :
    ∀ (i : Nat) (run : List Char), (runs accepts beginning)[i]? = some run →
      ∃ longer, (runs accepts cs)[i]? = some longer ∧ run <+: longer := by
  obtain ⟨after, rfl⟩ := h
  have hcut : CutsTo accepts beginning _ := cutsTo_runs beginning
  generalize runs accepts beginning = found at hcut ⊢
  induction hcut with
  | nil =>
    intro i run hrun
    cases hrun
  | reject hc _ ih =>
    rw [List.cons_append, runs_cons_reject hc]
    exact ih
  | @alone c rest found hc hnext h ih =>
    intro i run hrun
    -- This run ends at a gap, or with the beginning, and then the text may go on with it.
    cases i with
    | zero =>
      cases hrun
      obtain ⟨onward, more, hruns⟩ := runs_cons_accept hc (rest ++ after)
      exact ⟨c :: onward, by rw [List.cons_append, hruns]; rfl, List.prefix_append [c] onward⟩
    | succ i =>
      cases rest with
      | nil =>
        cases h
        cases hrun
      | cons d rest =>
        rw [List.cons_append, List.cons_append, runs_cons_gap hc (hnext d rfl),
          ← runs_cons_reject (hnext d rfl)]
        exact ih i run hrun
  | @join c d rest run more hc hd _ ih =>
    intro i found hfound
    obtain ⟨run', more', hruns⟩ := runs_cons_accept hd (rest ++ after)
    rw [List.cons_append, hruns] at ih
    rw [List.cons_append, List.cons_append, runs_cons_join hc hd, hruns, List.modifyHead_cons]
    cases i with
    | zero =>
      cases hfound
      obtain ⟨longer, hget, hprefix⟩ := ih 0 run rfl
      cases hget
      exact ⟨c :: d :: run', rfl, List.prefix_cons_inj c |>.mpr hprefix⟩
    | succ i => exact ih (i + 1) found hfound

/-! ## Words -/

/-- A word has a character and no blank. -/
def IsWord (w : List Char) : Prop :=
  w ≠ [] ∧ ∀ c ∈ w, isBlank c = false

theorem isWord_of_mem_wordsOf {cs w : List Char} (h : w ∈ wordsOf cs) : IsWord w :=
  ⟨(mem_runs h).1, fun c hc => by simpa using (mem_runs h).2 c hc⟩

/-- A blank separates words: those before it, and those after it. -/
theorem wordsOf_append_blank (before after : List Char) {gap : Char} (hgap : isBlank gap = true) :
    wordsOf (before ++ gap :: after) = wordsOf before ++ wordsOf after :=
  runs_append_gap before after (by simp [hgap])

theorem wordsOf_of_isWord {w : List Char} (h : IsWord w) : wordsOf w = [w] :=
  runs_of_all h.1 fun c hc => by simp [h.2 c hc]

theorem isBlank_space : isBlank ' ' = true := by decide

/-- **Joined words are read back** as the same words. Nothing is asked of their characters but that
none is blank. -/
theorem wordsOf_joinWords {ws : List (List Char)} (h : ∀ w ∈ ws, IsWord w) :
    wordsOf (joinWords ws) = ws := by
  induction ws with
  | nil => rfl
  | cons w rest ih =>
    obtain ⟨hw, hrest⟩ := List.forall_mem_cons.mp h
    cases rest with
    | nil => exact wordsOf_of_isWord hw
    | cons next rest =>
      rw [joinWords, wordsOf_append_blank _ _ isBlank_space, wordsOf_of_isWord hw, ih hrest]
      · rfl
      · exact List.cons_ne_nil _ _

/-- A word with further words after it is followed by a space. -/
theorem joinWords_cons_cons (w next : List Char) (rest : List (List Char)) :
    joinWords (w :: next :: rest) = w ++ ' ' :: joinWords (next :: rest) := rfl

theorem joinWords_cons_char (c : Char) (word : List Char) (more : List (List Char)) :
    joinWords ((c :: word) :: more) = c :: joinWords (word :: more) := by
  cases more <;> rfl

/-- Joined words have nothing but their characters and spaces, so that a character a normal form has
and that is no space comes from a word. -/
theorem mem_joinWords {ws : List (List Char)} {c : Char} (h : c ∈ joinWords ws) :
    c = ' ' ∨ ∃ w ∈ ws, c ∈ w := by
  induction ws with
  | nil => cases h
  | cons w rest ih =>
    cases rest with
    | nil => exact Or.inr ⟨w, List.mem_cons_self, h⟩
    | cons next rest =>
      rw [joinWords_cons_cons] at h
      rcases List.mem_append.mp h with hw | h
      · exact Or.inr ⟨w, List.mem_cons_self, hw⟩
      rcases List.mem_cons.mp h with hspace | h
      · exact Or.inl hspace
      · refine (ih h).imp_right ?_
        rintro ⟨w', hw', hc⟩
        exact ⟨w', List.mem_cons_of_mem _ hw', hc⟩

/-- Words and more words are joined with one space between them too, provided that there is a word
on either side. -/
theorem joinWords_append {ws more : List (List Char)} (hws : ws ≠ []) (hmore : more ≠ []) :
    joinWords (ws ++ more) = joinWords ws ++ ' ' :: joinWords more := by
  induction ws with
  | nil => exact absurd rfl hws
  | cons w rest ih =>
    cases rest with
    | nil =>
      obtain ⟨next, more, rfl⟩ := List.exists_cons_of_ne_nil hmore
      rfl
    | cons next rest =>
      rw [List.cons_append, List.cons_append, joinWords_cons_cons, ← List.cons_append,
        ih (List.cons_ne_nil _ _), joinWords_cons_cons, List.append_assoc, List.cons_append]

/-- Adding words only adds characters at the end. This is what makes typing on a longer line a
longer normal form. -/
theorem joinWords_prefix_append (ws more : List (List Char)) :
    joinWords ws <+: joinWords (ws ++ more) := by
  induction ws with
  | nil => exact List.nil_prefix
  | cons w rest ih =>
    cases rest with
    | nil =>
      cases more with
      | nil => exact List.prefix_refl _
      | cons next more => exact List.prefix_append _ _
    | cons next rest =>
      rw [List.cons_append, List.cons_append, joinWords_cons_cons, joinWords_cons_cons]
      exact List.prefix_append_right_inj w |>.mpr (List.prefix_cons_inj ' ' |>.mpr ih)

/-- **Lengthening the last word, or adding words, only adds characters at the end.** This is how a
text grows while it is typed, one character after the other. -/
theorem joinWords_prefix (ws : List (List Char)) {w longer : List Char} (h : w <+: longer)
    (more : List (List Char)) : joinWords (ws ++ [w]) <+: joinWords (ws ++ longer :: more) := by
  induction ws with
  | nil => exact h.trans (joinWords_prefix_append [longer] more)
  | cons first rest ih =>
    cases rest with
    | nil =>
      rw [List.cons_append, List.cons_append, List.nil_append, joinWords_cons_cons,
        List.nil_append, joinWords_cons_cons]
      exact List.prefix_append_right_inj first |>.mpr (List.prefix_cons_inj ' ' |>.mpr ih)
    | cons next rest =>
      rw [List.cons_append, List.cons_append, joinWords_cons_cons, List.cons_append,
        List.cons_append, joinWords_cons_cons]
      exact List.prefix_append_right_inj first |>.mpr (List.prefix_cons_inj ' ' |>.mpr ih)

end Gazetteer.Text

import Gazetteer.Proofs.Index.SameTerms
import Gazetteer.Proofs.Lexicon.Wording
import Gazetteer.Proofs.NormalLine
import Gazetteer.Proofs.Query.Shape
import Gazetteer.Proofs.Query.Slots
import Gazetteer.Proofs.Text.SpaceOnce

/-!
# A query and its normal form

The two searches for a query read it in two ways: one fills slots from it, the other takes its
normal form. They read the same: **the slots of the normal form are the normal forms of the slots**
(`ofText_normalLine`), if the words of the lexicon have no blanks. So both lead to one strategy, one
sort and the same result (`interpret_normalLine`).

As it is read, the normal form of a query is the query with one space for each run of blanks
(`reading_normalLine`). Such a text divides as the query does (`Division.Divides.onceSpaced`), the
lexicon finds the same word in it (`Lexicon.find?_spaceOnce`), and its rest is cut at that word into
the same parts (`splitTail_spaceOnce`), all but for the blanks. What the blanks come to in a slot is
the same, since a slot is trimmed.
-/

namespace Gazetteer

open Text

/-! ## Reading -/

/-- **A normal form is read as the query with one space for each run of blanks.** It is in lowercase
and trimmed already, and reading it does nothing more. -/
theorem Slots.reading_normalLine (raw : String) :
    (reading (normalLine raw)).toList = spaceOnce false (reading raw).toList := by
  have hlower : (reading raw).toList = lowerFrom false (trimChars raw.toList) :=
    toList_lowercase_trim raw
  have hwords : (normalLine raw).toList = joinWords (wordsOf (reading raw).toList) := by
    rw [toList_normalLine, normalChars, hlower, wordsOf_lowerFrom, wordsOf_trimChars]
  obtain ⟨htrimmed, hsettled⟩ := settled_normalLine raw
  rw [reading, trim_eq_self htrimmed, lowercase_eq_self hsettled, hwords]
  exact (settled_lowercase_trim raw).1.spaceOnce_eq.symm

/-! ## The word -/

/-- **A lexicon of words without blanks finds the same word** whether or not a text is spaced once.
The same words occur, and of those of one length the same one first. -/
theorem Lexicon.find?_spaceOnce {words : List String}
    (hsolid : ∀ word ∈ (ofWords words).words, ∀ c ∈ word.toList, isBlank c = false)
    {text once : String} (honce : once.toList = spaceOnce false text.toList) :
    (ofWords words).find? once = (ofWords words).find? text := by
  have hne : ∀ word ∈ (ofWords words).words, word.toList ≠ [] :=
    fun word hword => (isNormal_of_mem_ofWords hword).ne_nil
  have hpart : ∀ word ∈ (ofWords words).words, (word.toList <:+: once.toList ↔
      word.toList <:+: text.toList) := by
    intro word hword
    rw [honce]
    exact infix_spaceOnce_iff (hne word hword) (hsolid word hword)
  cases hfound : (ofWords words).find? text with
  | none =>
    rw [find?_eq_none_iff (longestFirst_ofWords words)] at hfound ⊢
    exact fun word hword hwithin => hfound word hword ((hpart word hword).mp hwithin)
  | some word =>
    rw [find?_ofWords_eq_some_iff] at hfound ⊢
    have hmem : ∀ {text other : String}, Occurs words text other → other ∈ (ofWords words).words :=
      fun h => (occurs_iff.mp h).1
    -- The winner is still part of the text, and it still beats the words that it beat by where they
    -- start, since spacing keeps which of two words starts first.
    refine ⟨⟨hfound.occurs.given, hfound.occurs.ne_empty, ?_⟩, fun other hother hneq => ?_⟩
    · exact (hpart word (hmem hfound.occurs)).mpr hfound.occurs.part
    · have hword := hmem hfound.occurs
      have hother' := hmem hother
      have hoccurs : Occurs words text other :=
        ⟨hother.given, hother.ne_empty, (hpart other hother').mp hother.part⟩
      refine (hfound.beats other hoccurs hneq).imp_right ?_
      rintro ⟨hsize, before, after, before', after', hfirst, hfirst', hlt⟩
      have htext : text.toList = before' ++ (other.toList ++ after') := by
        rw [hfirst'.text_eq, List.append_assoc]
      refine ⟨hsize, spaceOnce false before, spaceOnce false after, spaceOnce false before',
        spaceOnce false after',
        ?_, ?_, length_spaceOnce_lt hfirst (hne word hword) (hsolid word hword) htext hlt false⟩
      · exact honce ▸ firstAt_spaceOnce hfirst (hne word hword) (hsolid word hword) false
      · exact honce ▸ firstAt_spaceOnce hfirst' (hne other hother') (hsolid other hother') false

/-! ## The parts -/

section

variable {accepts : Char → Bool} {run after : List Char}

/-- What follows a run ends it spaced as well. -/
theorem ends_spaceOnce (hspace : accepts ' ' = false)
    (ends : ∀ c ∈ after.head?, accepts c = false) :
    ∀ c ∈ (spaceOnce false after).head?, accepts c = false := by
  intro c hc
  rw [head?_spaceOnce] at hc
  obtain ⟨d, hd, rfl⟩ := Option.map_eq_some_iff.mp hc
  split
  · exact hspace
  · exact ends d hd

/-- A character that comes next comes next in the spaced text, and one that does not still does
not. -/
theorem OneIfNext.spaceOnce (h : OneIfNext accepts run after) (hspace : accepts ' ' = false) :
    OneIfNext accepts run (Text.spaceOnce false after) := by
  cases h with
  | one after hc => exact .one _ hc
  | none ends => exact .none (ends_spaceOnce hspace ends)

end

namespace Division

/-- The division of a query with one space for each run of blanks. -/
def onceSpaced (d : Division) : Division :=
  { d with gap := spaceOnce false d.gap, rest := spaceOnce (!d.gap.isEmpty) d.rest }

variable {d : Division} {query : List Char}

/-- A blank behind the numbers stays apart from the rest: it becomes the space there, and blanks at
the beginning of the rest leave no other. -/
theorem Divides.spaceOnce_gap_append (hd : d.Divides query) :
    spaceOnce false (d.gap ++ d.rest) = d.onceSpaced.gap ++ d.onceSpaced.rest := by
  have hgap := hd.gap
  rw [onceSpaced]
  generalize d.gap = gap at hgap ⊢
  cases hgap with
  | one rest hc =>
    rw [List.singleton_append, spaceOnce_cons_first hc, spaceOnce_cons_first hc]
    rfl
  | none ends => rfl

/-- **A query with one space for each run of blanks divides as it did.** Blanks are in the gap and
in the rest only; in the rest they may come right behind the gap, and then leave no space there. -/
theorem Divides.onceSpaced (hd : d.Divides query) :
    d.onceSpaced.Divides (spaceOnce false query) := by
  have hdigits : ∀ {run after : List Char}, LongestRun isDecimalDigit run after → ∀ c ∈ run,
      isBlank c = false :=
    fun h c hc => isBlank_of_isDecimalDigit (h.accepted c hc)
  have hseparator : ∀ c ∈ d.separator, isBlank c = false := by
    rcases hd.separator_cases with hnone | hslash
    · rw [hnone]
      exact List.forall_mem_nil _
    · rw [hslash]
      exact List.forall_mem_singleton.mpr (by decide)
  have htrail : spaceOnce false (d.trail ++ (d.gap ++ d.rest)) =
      d.trail ++ (d.onceSpaced.gap ++ d.onceSpaced.rest) := by
    rw [spaceOnce_solid_append (hdigits hd.trail), hd.spaceOnce_gap_append]
  have hslash : spaceOnce false (d.separator ++ (d.trail ++ (d.gap ++ d.rest))) =
      d.separator ++ (d.trail ++ (d.onceSpaced.gap ++ d.onceSpaced.rest)) := by
    rw [spaceOnce_solid_append hseparator, htrail]
  -- The numbers stay, and they end where they ended, because spacing keeps what kind of character
  -- follows them.
  refine ⟨?_, ⟨hd.lead.accepted, ?_⟩, ?_, ⟨hd.trail.accepted, ?_⟩, ?_⟩
  · rw [hd.query_eq, spaceOnce_solid_append (hdigits hd.lead), hslash]
    rfl
  · exact hslash ▸ ends_spaceOnce (by decide) hd.lead.ends
  · exact htrail ▸ hd.separator.spaceOnce (by decide)
  · exact hd.spaceOnce_gap_append ▸ ends_spaceOnce (by decide) hd.trail.ends
  · have hgap := hd.gap
    rw [Division.onceSpaced]
    generalize d.gap = gap at hgap ⊢
    cases hgap with
    | one rest hc =>
      rw [spaceOnce_cons_first hc]
      exact .one _ isBlank_space
    | none ends =>
      refine .none fun c hc => ?_
      rw [List.isEmpty_nil, Bool.not_true, head?_spaceOnce] at hc
      obtain ⟨first, hfirst, rfl⟩ := Option.map_eq_some_iff.mp hc
      rw [if_neg (by rw [ends first hfirst]; exact Bool.false_ne_true)]
      exact ends first hfirst

end Division

/-! ## The slots -/

namespace Slots

/-- The slots with what a function makes of each text. -/
def mapTexts (f : String → String) (s : Slots) : Slots where
  flat := f s.flat
  number := f s.number
  name := f s.name
  streetType := f s.streetType
  suburb := f s.suburb

/-- **The rest of a query is cut at a word into the same parts** whether or not it is spaced
once. -/
theorem splitTail_spaceOnce {found : Option String}
    (hsolid : ∀ word, found = some word → word.toList ≠ [] ∧ ∀ c ∈ word.toList, isBlank c = false)
    (behind : Bool) (rest : List Char) :
    splitTail found (spaceOnce behind rest) =
      (spaceOnce behind (splitTail found rest).1, spaceOnce false (splitTail found rest).2.1,
        spaceOnce false (splitTail found rest).2.2) := by
  cases found with
  | none => rfl
  | some word =>
    obtain ⟨hne, hword⟩ := hsolid word rfl
    have hparts :
      (splitAtWord word.toList (spaceOnce behind rest)).getD (spaceOnce behind rest, []) =
        (spaceOnce behind ((splitAtWord word.toList rest).getD (rest, [])).1,
          spaceOnce false ((splitAtWord word.toList rest).getD (rest, [])).2) := by
      rw [splitAtWord_spaceOnce hne hword]
      cases splitAtWord word.toList rest <;> rfl
    rw [splitTail, hparts, splitTail]
    simp only [all_isBlank_spaceOnce]
    split
    · simp only [spaceOnce_eq_self hword]
      rfl
    · simp only [spaceOnce_eq_self hword]

/-- What a part of a query leaves in a slot, spaced once, is the normal form of what it leaves
there. -/
theorem toList_normalLine_of_part {text : String} (hsettled : ∀ c ∈ text.toList, Settled c)
    {part : List Char} (hpart : text.toList = trimChars part) (behind : Bool) :
    trimChars (spaceOnce behind part) = (normalLine text).toList := by
  rw [trimChars_spaceOnce, toList_normalLine_of_settled hsettled, hpart, wordsOf_trimChars]

/-- A text without blanks is its own normal form, in lowercase. The numbers are such texts, and so
is the word found. -/
theorem normalLine_eq_self {text : String} (hsettled : ∀ c ∈ text.toList, Settled c)
    (hsolid : ∀ c ∈ text.toList, isBlank c = false) : normalLine text = text := by
  apply String.toList_inj.mp
  rw [toList_normalLine_of_settled hsettled]
  by_cases hne : text.toList = []
  · rw [hne]
    rfl
  · rw [wordsOf_of_isWord ⟨hne, hsolid⟩]
    rfl

/-- **The slots of a normal form are the normal forms of the slots.** The division of the normal
form is that of the query with its rest spaced, and both find the same word in it. -/
theorem ofText_normalLine {words : List String}
    (hsolid : ∀ word ∈ (Lexicon.ofWords words).words, ∀ c ∈ word.toList, isBlank c = false)
    (raw : String) :
    ofText (Lexicon.ofWords words) (normalLine raw) =
      (ofText (Lexicon.ofWords words) raw).mapTexts normalLine := by
  obtain ⟨d, hd⟩ := Division.exists_divides (reading raw).toList
  have hnormal := hd.onceSpaced
  rw [← reading_normalLine] at hnormal
  have hsettled : ∀ text ∈ (ofText (Lexicon.ofWords words) raw).texts,
      ∀ c ∈ text.toList, Settled c :=
    fun text htext => (settled_texts words raw text htext).2
  have hnumber : ∀ text ∈ [(ofText (Lexicon.ofWords words) raw).flat,
    (ofText (Lexicon.ofWords words) raw).number],
      normalLine text = text := by
    intro text htext
    have hdigits := (digits_ofText (Lexicon.ofWords words) hd text htext).1
    refine normalLine_eq_self (hsettled text ?_) fun c hc =>
      isBlank_of_isDecimalDigit (hdigits c hc)
    exact List.mem_append_left [_, _, _] htext
  obtain ⟨hflat', hnumber'⟩ := numbers_again (Lexicon.ofWords words) hd hnormal rfl rfl rfl
  -- The same word cuts both rests, and so the other slots come from the same parts.
  have hcut : splitTail ((Lexicon.ofWords words).find? (reading (normalLine raw)))
      (splitHead (reading (normalLine raw)).toList).rest =
      splitTail ((Lexicon.ofWords words).find? (reading raw))
        (spaceOnce (!d.gap.isEmpty) d.rest) := by
    rw [Lexicon.find?_spaceOnce hsolid (reading_normalLine raw), rest_splitHead,
      ← Division.divides_iff.mp hnormal]
    rfl
  rw [splitTail_spaceOnce fun word hfound =>
    ⟨(find?_spec hfound).2.1.ne_nil, hsolid word (find?_spec hfound).1⟩] at hcut
  have htexts := @rest_ofText (Lexicon.ofWords words) raw
  rw [rest_splitHead, ← Division.divides_iff.mp hd] at htexts
  obtain ⟨hname, htype, hsuburb⟩ := htexts rfl
  obtain ⟨hname', htype', hsuburb'⟩ := rest_ofText _ _ hcut
  refine eq_of_toList ?_ ?_ ?_ ?_ ?_
  · exact hflat'.trans (congrArg String.toList (hnumber _ (by simp)).symm)
  · exact hnumber'.trans (congrArg String.toList (hnumber _ (by simp)).symm)
  · exact hname'.trans (toList_normalLine_of_part (hsettled _ (by simp [texts])) hname _)
  · exact htype'.trans (toList_normalLine_of_part (hsettled _ (by simp [texts])) htype _)
  · exact hsuburb'.trans (toList_normalLine_of_part (hsettled _ (by simp [texts])) hsuburb _)

/-! ## Plans -/

variable {f : String → String} {s : Slots}

/-- **A function fills no slot and empties none.** -/
def KeepsFilled (f : String → String) (s : Slots) : Prop :=
  ∀ text ∈ s.texts, (f text = "" ↔ text = "")

theorem KeepsFilled.presence_eq (h : s.KeepsFilled f) : (s.mapTexts f).presence = s.presence := by
  have hsame : ∀ text ∈ s.texts, (f text != "") = (text != "") := by
    intro text htext
    rw [Bool.eq_iff_iff, bne_iff_ne, bne_iff_ne, ne_eq, ne_eq, h text htext]
  simp only [texts, List.forall_mem_cons] at hsame
  obtain ⟨hflat, hnumber, hname, htype, hsuburb, -⟩ := hsame
  simp only [presence, mapTexts, hflat, hnumber, hname, htype, hsuburb]

/-- Results are sorted by which slots are filled, and so by the same keys. -/
theorem KeepsFilled.sortSpec_eq (h : s.KeepsFilled f) : (s.mapTexts f).sortSpec = s.sortSpec := by
  have hflat : f s.flat = "" ↔ s.flat = "" := h s.flat List.mem_cons_self
  simp only [sortSpec, mapTexts, hflat]

/-- The clauses of a strategy are those of the same slots. -/
theorem KeepsFilled.clauses_eq (h : s.KeepsFilled f) (strategy : Strategy) :
    strategy.clauses (s.mapTexts f) = (strategy.clauses s).map (·.mapValue f) := by
  cases strategy with
  | composite =>
    simp only [Strategy.clauses, Strategy.filledClauses, h.presence_eq, List.map_append,
      apply_ite (List.map _), List.map_cons, List.map_nil]
    rfl
  | _ => rfl

/-- **The same strategy and sort are planned**, and the plan with other values. -/
theorem KeepsFilled.planned_eq (h : s.KeepsFilled f) :
    (s.mapTexts f).planned = ⟨s.planned.strategy, s.planned.plan.mapValues f, s.planned.sort⟩ := by
  simp only [planned, Strategy.plan, h.presence_eq, h.sortSpec_eq, h.clauses_eq,
    Plan.ofClauses_map_mapValue]

end Slots

/-! ## Normal forms of slots -/

/-- A trimmed text in lowercase has a normal form that is not empty, unless it is empty. -/
theorem normalLine_eq_empty_iff {text : String} (htrimmed : Trimmed text.toList)
    (hsettled : ∀ c ∈ text.toList, Settled c) : normalLine text = "" ↔ text = "" := by
  rw [← String.toList_inj, toList_normalLine_of_settled hsettled, ← htrimmed.spaceOnce_eq,
    ← String.toList_inj]
  exact spaceOnce_eq_nil_iff

/-- **The normal form of a text in lowercase has its terms.** Terms are those of words, and only the
blanks between words have changed. -/
theorem Index.terms_normalLine {text : String} (hsettled : ∀ c ∈ text.toList, Settled c) :
    terms (normalLine text) = terms text := by
  have hruns : runs isAlphanumeric (normalLine text).toList = runs isAlphanumeric text.toList := by
    rw [toList_normalLine_of_settled hsettled, runs_isAlphanumeric_eq,
      wordsOf_joinWords fun _ hword => isWord_of_mem_wordsOf hword, ← runs_isAlphanumeric_eq]
  rw [terms, terms, hruns]

/-- **A query and its normal form are read the same**, if the words of the lexicon have no blanks:
the slots of one are the normal forms of the slots of the other, the strategy and the sort are the
same, and in every index the same documents match with the same scores, so that all searches have
the same results.

Normal forms change the blanks between words and nothing else of a query that is in lowercase. A
word of the lexicon with a blank in it could be found in one of the two and not in the other. The
values of the plans differ by blanks, too, and terms do not: from there on all follows from the
terms being the same. -/
theorem interpret_normalLine {words : List String}
    (hsolid : ∀ word ∈ (Lexicon.ofWords words).words, ∀ c ∈ word.toList, isBlank c = false)
    (raw : String) :
    let typed := interpret (.ofWords words) raw
    let normal := interpret (.ofWords words) (normalLine raw)
    normal.slots = typed.slots.mapTexts normalLine ∧
      normal.planned.strategy = typed.planned.strategy ∧ normal.planned.sort = typed.planned.sort ∧
      (∀ d : Index.Document, normal.planned.plan.Matches d ↔ typed.planned.plan.Matches d) ∧
      ∀ index : AddressIndex,
        (∀ d, (Index.Matcher.of index.documents normal.planned.plan).score? d =
          (Index.Matcher.of index.documents typed.planned.plan).score? d) ∧
        ∀ limit, index.search normal.planned.plan normal.planned.sort limit =
          index.search typed.planned.plan typed.planned.sort limit := by
  have htexts := Slots.settled_texts words raw
  simp only [interpret, Slots.ofText_normalLine hsolid raw, true_and]
  generalize Slots.ofText (.ofWords words) raw = s at htexts ⊢
  have hfilled : s.KeepsFilled normalLine :=
    fun text htext => normalLine_eq_empty_iff (htexts text htext).1 (htexts text htext).2
  have hterms : ∀ clause ∈ s.planned.plan.clauses, clause.KeepsTerms normalLine :=
    fun clause hclause => Index.terms_normalLine (htexts _ (Slots.value_of_mem_planned hclause).1).2
  rw [hfilled.planned_eq]
  exact ⟨rfl, rfl, fun d => Plan.matches_mapValues_iff hterms, fun index =>
    ⟨Plan.score?_mapValues hterms index.documents, index.search_mapValues hterms s.planned.sort⟩⟩

/-- A flat and a suburb of two words, with tabs and other blanks between what is typed. -/
theorem interpret_normalLine_spread :
    normalLine " 4/15\t Oyster \u00a0 Cove STREET  Main\nBeach" =
      "4/15 oyster cove street main beach" ∧
      (interpret .standard "4/15 oyster cove street main beach").slots =
        (interpret .standard " 4/15\t Oyster \u00a0 Cove STREET  Main\nBeach").slots.mapTexts
          normalLine ∧
      (interpret .standard "4/15 oyster cove street main beach").planned.strategy =
        (interpret .standard
          " 4/15\t Oyster \u00a0 Cove STREET  Main\nBeach").planned.strategy := by
  have hnormal : normalLine " 4/15\t Oyster \u00a0 Cove STREET  Main\nBeach" =
      "4/15 oyster cove street main beach" := by
    decide
  obtain ⟨hslots, hstrategy, -⟩ := @interpret_normalLine (Lexicon.streetTypes ++ [])
    (fun word hword c hc => (Lexicon.plain_standard word hword c hc).1)
    " 4/15\t Oyster \u00a0 Cove STREET  Main\nBeach"
  rw [hnormal] at hslots hstrategy
  exact ⟨hnormal, hslots, hstrategy⟩

end Gazetteer

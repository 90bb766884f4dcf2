import Gazetteer.Proofs.Text.SmallLetters
import Gazetteer.Proofs.Text.Trim
import Mathlib.Data.List.Basic

/-!
# What is done word by word

A function that reads the two sides of a blank on their own reads a text word by word
(`eq_flatMap_wordsOf`). Two such functions matter to queries. A text has **the lowercase words of
its words** (`wordsOf_lowerFrom`), although the form of a capital sigma depends on its neighbours,
because the look for them ends at a blank; and **its runs of letters and numbers are those of its
words** (`runs_isAlphanumeric_eq`).
-/

namespace Gazetteer.Text

/-- **What is put together at blanks is put together from words.** The induction is over the text
behind a word that is still open. -/
theorem eq_flatMap_wordsOf {β : Type} {f : List Char → List β} (hnil : f [] = [])
    (hblank : ∀ before gap after,
      isBlank gap = true → f (before ++ gap :: after) = f before ++ f after)
    (cs : List Char) : f cs = (wordsOf cs).flatMap f := by
  have hword : ∀ word : List Char, (∀ c ∈ word, isBlank c = false) →
      f word = (wordsOf word).flatMap f := by
    intro word hsolid
    by_cases hne : word = []
    · rw [hne, hnil]
      rfl
    · rw [wordsOf_of_isWord ⟨hne, hsolid⟩, List.flatMap_singleton]
  -- The induction is on what is left of the text, with the word that is still open before it.
  have hopen : ∀ word : List Char, (∀ c ∈ word, isBlank c = false) →
      f (word ++ cs) = (wordsOf (word ++ cs)).flatMap f := by
    induction cs with
    | nil =>
      intro word hsolid
      rw [List.append_nil]
      exact hword word hsolid
    | cons c rest ih =>
      intro word hsolid
      cases hc : isBlank c with
      | true =>
        rw [hblank word c rest hc, wordsOf_append_blank word rest hc, List.flatMap_append,
          hword word hsolid]
        exact congrArg _ (ih [] (List.forall_mem_nil _))
      | false =>
        have hlonger :=
          ih (word ++ [c]) (List.forall_mem_append.mpr ⟨hsolid, List.forall_mem_singleton.mpr hc⟩)
        rwa [List.append_assoc, List.singleton_append] at hlonger
  exact hopen [] (List.forall_mem_nil _)

/-! ## The words of parts -/

/-- A text has words unless it is blank. -/
theorem wordsOf_eq_nil_iff {cs : List Char} : wordsOf cs = [] ↔ Blanks cs := by
  have hflat := @flatten_runs (fun c => !isBlank c) cs
  constructor
  · intro hnil c hc
    rw [show runs (fun c => !isBlank c) cs = [] from hnil, List.flatten_nil, eq_comm,
      List.filter_eq_nil_iff] at hflat
    simpa using hflat c hc
  · intro hblanks
    refine List.eq_nil_iff_forall_not_mem.mpr fun word hword => ?_
    obtain ⟨hne, hsolid⟩ := isWord_of_mem_wordsOf hword
    obtain ⟨c, hc⟩ := List.exists_mem_of_ne_nil word hne
    have hmem : c ∈ (wordsOf cs).flatten := List.mem_flatten.mpr ⟨word, hword, hc⟩
    rw [show (wordsOf cs).flatten = _ from hflat] at hmem
    have hblank := hblanks c (List.mem_filter.mp hmem).1
    rw [hsolid c hc] at hblank
    cases hblank

/-- Blanks around a text have no words, and do not reach into those of the text. -/
theorem wordsOf_padded {front back : List Char} (hfront : Blanks front) (hback : Blanks back)
    (cs : List Char) :
    wordsOf (front ++ cs ++ back) = wordsOf cs := by
  have hstart : wordsOf (front ++ (cs ++ back)) = wordsOf (cs ++ back) := by
    induction front with
    | nil => rfl
    | cons gap front ih =>
      obtain ⟨hgap, hrest⟩ := List.forall_mem_cons.mp hfront
      rw [← ih hrest]
      exact wordsOf_append_blank [] _ hgap
  rw [List.append_assoc, hstart]
  cases back with
  | nil => rw [List.append_nil]
  | cons gap back =>
    obtain ⟨hgap, hrest⟩ := List.forall_mem_cons.mp hback
    rw [wordsOf_append_blank _ _ hgap, wordsOf_eq_nil_iff.mpr hrest, List.append_nil]

/-- Some blanks separate the words before them from the words behind them, whatever blanks they are
and however many. -/
theorem wordsOf_append_gap {gap : List Char} (hne : gap ≠ []) (hgap : Blanks gap)
    (before after : List Char) :
    wordsOf (before ++ gap ++ after) = wordsOf before ++ wordsOf after := by
  obtain ⟨c, gap, rfl⟩ := List.exists_cons_of_ne_nil hne
  obtain ⟨hc, hrest⟩ := List.forall_mem_cons.mp hgap
  have hafter := wordsOf_padded hrest blanks_nil after
  rw [List.append_nil] at hafter
  rw [List.append_assoc, List.cons_append, wordsOf_append_blank _ _ hc, hafter]

/-- **Trimming keeps the words**, as it takes off blanks only. -/
theorem wordsOf_trimChars (cs : List Char) : wordsOf (trimChars cs) = wordsOf cs := by
  obtain ⟨front, back, hcs, hfront, -, hback⟩ := trimChars_spec cs
  conv => rhs; rw [hcs]
  exact (wordsOf_padded hfront hback _).symm

/-! ## Lowercase -/

set_option maxRecDepth 4000 in
/-- No blank is in a table of letters and numbers, of letters with case or of characters that are
passed over. Each pair of tables is compared as two sets. -/
theorem blanks_unmarked :
    ([alphanumericRanges, casedRanges, caseIgnorableRanges].all fun table =>
      blankRanges.marks &&& table.marks == 0) = true := by
  decide

/-- Blanks are in none of the tables that letters are looked up in. -/
theorem covers_blank {table : RangeTable}
    (htable : table ∈ [alphanumericRanges, casedRanges, caseIgnorableRanges])
    {gap : Char} (h : isBlank gap = true) : table.covers gap.toNat = false :=
  covers_eq_false_of_marks (eq_of_beq (List.all_eq_true.mp blanks_unmarked table htable)) h

/-- Blanks are neither letters nor numbers. -/
theorem isAlphanumeric_of_isBlank {gap : Char} (h : isBlank gap = true) :
    isAlphanumeric gap = false :=
  covers_blank (by simp) h

theorem isCased_of_isBlank {gap : Char} (h : isBlank gap = true) : isCased gap = false :=
  covers_blank (by simp) h

theorem isCaseIgnorable_of_isBlank {gap : Char} (h : isBlank gap = true) :
    isCaseIgnorable gap = false :=
  covers_blank (by simp) h

/-- A blank is its own lowercase form: what has another one is a letter or a number. -/
theorem lowerChar_of_isBlank {gap : Char} (h : isBlank gap = true) : lowerChar gap = [gap] := by
  have hdotted : gap ≠ dottedCapitalI := by
    rintro rfl
    revert h
    decide
  rw [lowerChar_eq_smallForm hdotted, smallForm]
  rcases lowerCode_cases caseRuns gap.toNat with hfixed | ⟨run, hrun, hmoves, -⟩
  · rw [hfixed, Char.ofNat_toNat]
  · have hwithin := List.all_eq_true.mp caseRuns_within_alphanumeric run hrun
    have hcovers := (CaseRun.covers_of_within alphanumericRanges_rise hwithin hmoves).1
    rw [show alphanumericRanges.covers gap.toNat =
      false from isAlphanumeric_of_isBlank h] at hcovers
    cases hcovers

/-- Looking ahead for a cased letter ends at a blank, which has no case and is not passed over. -/
theorem casedAhead_append_blank (before after : List Char) {gap : Char}
    (hgap : isBlank gap = true) :
    casedAhead (before ++ gap :: after) = casedAhead before := by
  have hstop : (gap :: after).dropWhile isCaseIgnorable = gap :: after :=
    List.dropWhile_cons_of_neg (by rw [isCaseIgnorable_of_isBlank hgap]; exact Bool.false_ne_true)
  unfold casedAhead
  rw [List.dropWhile_append, hstop]
  cases before.dropWhile isCaseIgnorable with
  | nil => exact isCased_of_isBlank hgap
  | cons c rest => rfl

/-- **A blank parts a text for lowercasing**: what is behind it begins anew. Neither direction in
which a capital sigma looks leads across a blank. -/
theorem lowerFrom_append_blank (behind : Bool) (before after : List Char) {gap : Char}
    (hgap : isBlank gap = true) :
    lowerFrom behind (before ++ gap :: after) = lowerFrom behind before ++ gap ::
      lowerFrom false after := by
  induction before generalizing behind with
  | nil =>
    have hsigma : ¬ gap = capitalSigma := by
      rintro rfl
      revert hgap
      decide
    rw [List.nil_append, lowerFrom_eq_smallAt, smallAt, if_neg hsigma,
      lowerChar_of_isBlank hgap, casedPast, isCaseIgnorable_of_isBlank hgap,
      isCased_of_isBlank hgap]
    rfl
  | cons c rest ih =>
    have hsmall : smallAt behind c (rest ++ gap :: after) = smallAt behind c rest := by
      rw [smallAt, smallAt, casedAhead_append_blank rest after hgap]
    rw [List.cons_append, lowerFrom_eq_smallAt, lowerFrom_eq_smallAt, hsmall, ih, List.append_assoc]

theorem isWord_lowerFrom {w : List Char} (h : IsWord w) : IsWord (lowerFrom false w) :=
  ⟨lowerFrom_ne_nil h.1 false, fun _ hd => (mem_lowerFrom hd).2 h.2⟩

/-- **The words of a lowercase text** are the words of the text, each in lowercase. -/
theorem wordsOf_lowerFrom (cs : List Char) :
    wordsOf (lowerFrom false cs) = (wordsOf cs).map (lowerFrom false) := by
  have hwords : wordsOf (lowerFrom false cs) = (wordsOf cs).flatMap fun word =>
      wordsOf (lowerFrom false word) := by
    refine eq_flatMap_wordsOf (f := fun cs => wordsOf (lowerFrom false cs)) rfl
      (fun before gap after hgap => ?_) cs
    simp only [lowerFrom_append_blank false before after hgap, wordsOf_append_blank _ _ hgap]
  rw [hwords, List.map_eq_flatMap]
  refine List.flatMap_congr fun word hword => ?_
  exact wordsOf_of_isWord (isWord_lowerFrom (isWord_of_mem_wordsOf hword))

/-! ## Runs of letters and numbers -/

/-- **The runs of letters and numbers** of a text are those of its words. The terms of a text do not
depend on the blanks between its words. -/
theorem runs_isAlphanumeric_eq (cs : List Char) :
    runs isAlphanumeric cs = (wordsOf cs).flatMap (runs isAlphanumeric) :=
  eq_flatMap_wordsOf rfl
    (fun before _ after hgap => runs_append_gap before after (isAlphanumeric_of_isBlank hgap)) cs

end Gazetteer.Text

import Gazetteer.Proofs.Text.Lowercase
import Gazetteer.Text.Alphanumeric

/-!
# Lowercase text, character by character

Every character but one has a lowercase form of one character, **a letter or a number exactly if it
is one itself** (`isAlphanumeric_smallForm`); this is decided run by run with sets of code points as
binary digits. The other one is the dotted capital, whose form has a combining dot behind its
letter.

A text is lowercased character by character unless a capital sigma ends a word of it: `FinalSigma`
says where that is, `lowerFrom_of_not_finalSigma` that nothing else looks at its neighbours, and
`count_lowerFrom` that each such sigma is one final small sigma more.
-/

namespace Gazetteer.Text

/-! ## Characters -/

/-- The lowercase form of a character other than the dotted capital. -/
def smallForm (c : Char) : Char :=
  Char.ofNat (lowerCode caseRuns c.toNat)

/-- All characters but the dotted capital have a form of one character. -/
theorem lowerChar_eq_smallForm {c : Char} (h : c ≠ dottedCapitalI) : lowerChar c = [smallForm c] :=
  if_neg h

theorem lowerChar_capitalSigma : lowerChar capitalSigma = ['σ'] := by
  decide

/-- A small form is its own lowercase form. -/
theorem lowerChar_smallForm {c : Char} (h : c ≠ dottedCapitalI) :
    lowerChar (smallForm c) = [smallForm c] := by
  by_cases hsigma : c = capitalSigma
  · subst hsigma
    decide
  · have hmem : smallForm c ∈ lowerChar c := by
      rw [lowerChar_eq_smallForm h]
      exact List.mem_singleton_self _
    exact (mem_lowerChar hsigma hmem).1.1

/-- Whether a table has all code points that a run moves, and their counterparts. -/
def CaseRun.within (run : CaseRun) (table : RangeTable) : Bool :=
  decide (0 ≤ run.first + run.shift) &&
    (run.marks run.first &&& table.marks) == run.marks run.first &&
    (run.marks run.low &&& table.marks) == run.marks run.low

set_option maxRecDepth 4000 in
/-- All code points that the table of counterparts mentions, on either side, are those of letters or
numbers. Decided run by run, with the ranges of letters and numbers as one set. -/
theorem caseRuns_within_alphanumeric :
    (caseRuns.all fun run => run.within alphanumericRanges) = true := by
  decide

set_option maxRecDepth 4000 in
theorem alphanumericRanges_rise : alphanumericRanges.risesFrom 0 = true := by
  decide

/-- A run within a table is covered by it on both sides. -/
theorem CaseRun.covers_of_within {run : CaseRun} {table : RangeTable}
    (hrises : table.risesFrom 0 = true)
    (hwithin : run.within table = true) {n : Nat} (hn : run.Moves n) :
    table.covers n = true ∧ table.covers (n + run.shift).toNat = true := by
  simp only [within, Bool.and_eq_true, decide_eq_true_eq, beq_iff_eq] at hwithin
  obtain ⟨⟨hpos, hmoved⟩, hcounterparts⟩ := hwithin
  have hmarked : ∀ {marks k : Nat}, marks.testBit k = true → marks &&& table.marks = marks →
      table.covers k = true := by
    intro marks k hbit hand
    rw [← hand, Nat.testBit_and, Bool.and_eq_true] at hbit
    exact covers_of_testBit_marks hrises hbit.2
  exact ⟨hmarked (testBit_marks_first hn) hmoved, hmarked (testBit_marks_low hn hpos) hcounterparts⟩

/-- **Small forms of letters and numbers are letters and numbers**, and no others are. A code point
that no run moves is its own counterpart; of one that is moved both sides are in the table. -/
theorem isAlphanumeric_smallForm (c : Char) : isAlphanumeric (smallForm c) = isAlphanumeric c := by
  rcases lowerCode_cases caseRuns c.toNat with hfixed | ⟨run, hrun, hmoves, hcode⟩
  · rw [smallForm, hfixed, Char.ofNat_toNat]
  · have hwithin := List.all_eq_true.mp caseRuns_within_alphanumeric run hrun
    have hcovers := CaseRun.covers_of_within alphanumericRanges_rise hwithin hmoves
    have hvalid := (run.settledCode hrun hmoves).valid
    rw [isAlphanumeric, isAlphanumeric, smallForm, hcode,
      toNat_ofNat_of_isValidChar hvalid, hcovers.1, hcovers.2]

/-- **The final small sigma is the lowercase form of itself alone.** Counting it therefore counts
the capital sigmas that end a word. -/
theorem eq_of_finalSigma_mem_lowerChar {c : Char} (h : 'ς' ∈ lowerChar c) : c = 'ς' :=
  eq_of_mem_lowerChar (by decide) (by decide) h

/-! ## Capital sigmas -/

/-- Whether the last character that is not passed over has case, past one more character. -/
def casedPast (behind : Bool) (c : Char) : Bool :=
  if isCaseIgnorable c then behind else isCased c

/-- What a character adds to the lowercase form of a text, before the rest of it. -/
def smallAt (behind : Bool) (c : Char) (rest : List Char) : List Char :=
  if c = capitalSigma then [if behind && !casedAhead rest then 'ς' else 'σ'] else lowerChar c

/-- The lowercase form of a text is what its first character adds, and then the form of the rest. -/
theorem lowerFrom_eq_smallAt (behind : Bool) (c : Char) (rest : List Char) :
    lowerFrom behind (c :: rest) = smallAt behind c rest ++
      lowerFrom (casedPast behind c) rest := by
  rw [lowerFrom, smallAt, casedPast]
  split <;> rfl

/-- Only a capital sigma that ends a word is not lowercased on its own. Everything else has one
form, wherever it stands. -/
theorem smallAt_eq_lowerChar {behind : Bool} {c : Char} {rest : List Char}
    (h : ¬ (c = capitalSigma ∧ behind = true ∧ casedAhead rest = false)) :
    smallAt behind c rest = lowerChar c := by
  unfold smallAt
  split
  next hsigma =>
    have hwithin : (behind && !casedAhead rest) = false := by
      rw [Bool.eq_false_iff]
      intro hfinal
      rw [Bool.and_eq_true, Bool.not_eq_true'] at hfinal
      exact h ⟨hsigma, hfinal⟩
    rw [hsigma, lowerChar_capitalSigma, hwithin]
    rfl
  next => rfl

/-- No character loses final small sigmas: one that is there stays there. -/
theorem count_le_count_smallAt (behind : Bool) (c : Char) (rest : List Char) :
    [c].count 'ς' ≤ (smallAt behind c rest).count 'ς' := by
  by_cases hc : c = 'ς'
  · subst hc
    rw [smallAt, if_neg (by decide)]
    decide
  · rw [List.count_singleton, beq_false_of_ne hc]
    exact Nat.zero_le _

/-- **A capital sigma ends a word**: of the characters that are not passed over, the last one before
it has case and the first one after it has none. -/
def FinalSigma (behind : Bool) (cs : List Char) : Prop :=
  ∃ before after, cs = before ++ capitalSigma :: after ∧
    before.foldl casedPast behind = true ∧ casedAhead after = false

theorem not_finalSigma_nil (behind : Bool) : ¬ FinalSigma behind [] := by
  rintro ⟨before, after, hcs, -⟩
  exact List.append_ne_nil_of_right_ne_nil before (List.cons_ne_nil _ _) hcs.symm

/-- A capital sigma that ends a word is the first character, or stands in the rest. -/
theorem finalSigma_cons {behind : Bool} {c : Char} {rest : List Char} :
    FinalSigma behind (c :: rest) ↔
      (c = capitalSigma ∧ behind = true ∧ casedAhead rest = false) ∨
        FinalSigma (casedPast behind c) rest := by
  constructor
  · rintro ⟨before, after, hcs, hbehind, hahead⟩
    cases before with
    | nil =>
      obtain ⟨rfl, rfl⟩ := List.cons.inj hcs
      exact Or.inl ⟨rfl, hbehind, hahead⟩
    | cons d before =>
      obtain ⟨rfl, rfl⟩ := List.cons.inj hcs
      exact Or.inr ⟨before, after, rfl, hbehind, hahead⟩
  · rintro (⟨rfl, hbehind, hahead⟩ | ⟨before, after, rfl, hbehind, hahead⟩)
    · exact ⟨[], rest, rfl, hbehind, hahead⟩
    · exact ⟨c :: before, after, rfl, hbehind, hahead⟩

/-- **Without a sigma that ends a word each character is lowercased on its own.** The neighbours of
a character matter for nothing else. -/
theorem lowerFrom_of_not_finalSigma {cs : List Char} {behind : Bool} (h : ¬ FinalSigma behind cs) :
    lowerFrom behind cs = cs.flatMap lowerChar := by
  induction cs generalizing behind with
  | nil => rfl
  | cons c rest ih =>
    rw [finalSigma_cons, not_or] at h
    rw [lowerFrom_eq_smallAt, smallAt_eq_lowerChar h.1, ih h.2, List.flatMap_cons]

/-- Without a capital sigma each character is lowercased on its own, which is what makes the
beginning of a text lowercase to the beginning of its lowercase form. -/
theorem lowerFrom_eq_flatMap {cs : List Char} (h : capitalSigma ∉ cs) (behind : Bool) :
    lowerFrom behind cs = cs.flatMap lowerChar := by
  apply lowerFrom_of_not_finalSigma
  rintro ⟨before, after, rfl, -⟩
  exact h (List.mem_append_right _ List.mem_cons_self)

/-- **Final small sigmas stay, and each capital sigma that ends a word is one more.** So the two
ways of lowercasing a text, as a whole and character by character, are told apart by a count. -/
theorem count_lowerFrom (cs : List Char) (behind : Bool) :
    cs.count 'ς' ≤ (lowerFrom behind cs).count 'ς' ∧
      (FinalSigma behind cs → cs.count 'ς' < (lowerFrom behind cs).count 'ς') := by
  induction cs generalizing behind with
  | nil => exact ⟨Nat.le_refl 0, fun h => absurd h (not_finalSigma_nil behind)⟩
  | cons c rest ih =>
    obtain ⟨hle, hlt⟩ := ih (casedPast behind c)
    have hhere := count_le_count_smallAt behind c rest
    rw [lowerFrom_eq_smallAt, List.count_append, finalSigma_cons, ← List.singleton_append,
      List.count_append]
    refine ⟨Nat.add_le_add hhere hle, ?_⟩
    rintro (⟨rfl, rfl, hahead⟩ | hlater)
    · rw [smallAt, hahead]
      exact Nat.add_lt_add_of_lt_of_le (by decide) hle
    · exact Nat.add_lt_add_of_le_of_lt hhere (hlt hlater)

end Gazetteer.Text

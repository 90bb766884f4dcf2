import Gazetteer.Proofs.Text.CodeRange
import Gazetteer.Text.Blank
import Gazetteer.Text.Lowercase

/-!
# Lowercase text stays as it is

Lowercasing is idempotent. The table of counterparts is finite, so that **no counterpart is itself
in the table** is decided run by run, with sets of code points as binary digits (`caseRuns_settle`);
all else is an induction over the text.

Three facts go from characters to texts: a settled text is its own lowercase form, the lowercase
form of any text is settled, and lowercasing neither makes nor removes blanks.
-/

namespace Gazetteer.Text

/-! ## Code points -/

/-- A code point is one of those that a run moves. -/
def CaseRun.Moves (run : CaseRun) (n : Nat) : Prop :=
  run.first ≤ n ∧ n ≤ run.last ∧ (n - run.first) % run.step = 0

/-- The least counterpart that a run gives. -/
def CaseRun.low (run : CaseRun) : Nat := (run.first + run.shift).toNat

/-- The greatest counterpart that a run gives. -/
def CaseRun.high (run : CaseRun) : Nat := (run.last + run.shift).toNat

/-- Whether all counterparts of a run lie outside a range. -/
def CaseRun.outside (run : CaseRun) (first last : Nat) : Bool :=
  Nat.blt run.high first || Nat.blt last run.low

/-- Binary digits at zero and at the first few multiples of a step. -/
def spread (step : Nat) : Nat → Nat
  | 0 => 1
  | count + 1 => spread step count <<< step ||| 1

/-- The code points that a run moves as binary digits, or the counterparts, with the least of
them. -/
def CaseRun.marks (run : CaseRun) (least : Nat) : Nat :=
  spread run.step ((run.last - run.first) / run.step) <<< least

/-- The code points that runs move as binary digits. -/
def movedMarks : List CaseRun → Nat
  | [] => 0
  | run :: rest => run.marks run.first ||| movedMarks rest

/-- Whether no counterpart of a run is a blank, the dotted capital, or moved by a run of the
table. -/
def CaseRun.settles (run : CaseRun) : Bool :=
  decide (0 ≤ run.first + run.shift) && (run.outside 0xD800 0x10FFFF || run.outside 0 0xDFFF) &&
    Nat.blt run.high 0x110000 && run.outside dottedCapitalI.toNat dottedCapitalI.toNat &&
    (blankRanges.all fun range => run.outside range.1 range.2) &&
    (run.marks run.low &&& movedMarks caseRuns) == 0

set_option maxRecDepth 4000 in
/-- **The table maps into what it leaves alone.** The one computation over the whole table in this
module: with sets of code points as binary digits it takes a conjunction for each run, not a search
for each letter. -/
theorem caseRuns_settle : caseRuns.all CaseRun.settles = true := by
  decide

/-- A code point that no run moves, and that is neither a blank nor the dotted capital. -/
structure SettledCode (n : Nat) : Prop where
  fixed : lowerCode caseRuns n = n
  valid : n.isValidChar
  notBlank : blankRanges.covers n = false
  notDotted : n ≠ dottedCapitalI.toNat

instance (n : Nat) : Decidable (SettledCode n) :=
  decidable_of_iff (lowerCode caseRuns n = n ∧ n.isValidChar ∧ blankRanges.covers n = false ∧
      n ≠ dottedCapitalI.toNat)
    ⟨fun h => ⟨h.1, h.2.1, h.2.2.1, h.2.2.2⟩, fun h => ⟨h.fixed, h.valid, h.notBlank, h.notDotted⟩⟩

/-- A code point is left alone, or a run of the table gives its counterpart. The table is looked
through up to the first run that holds the code point, and nothing more of that is used than
this. -/
theorem lowerCode_cases (runs : List CaseRun) (n : Nat) :
    lowerCode runs n = n ∨
      ∃ run ∈ runs, run.Moves n ∧ lowerCode runs n = (n + run.shift).toNat := by
  induction runs with
  | nil => exact Or.inl rfl
  | cons run rest ih =>
    simp only [lowerCode]
    split
    · exact Or.inl rfl
    next hfirst =>
      split
      next hlast =>
        simp only [Bool.and_eq_true, decide_eq_true_eq, beq_iff_eq] at hlast
        exact Or.inr ⟨run, List.mem_cons_self, ⟨Nat.le_of_not_lt hfirst, hlast⟩, rfl⟩
      next =>
        rcases ih with h | ⟨found, hmem, h⟩
        · exact Or.inl h
        · exact Or.inr ⟨found, List.mem_cons_of_mem _ hmem, h⟩

/-- A counterpart lies outside whatever all counterparts of its run lie outside. The ends of the run
stand for everything between them, because counterparts are as far apart as the code points they
belong to. -/
theorem CaseRun.outside_apply {run : CaseRun} {n first last : Nat} (hn : run.Moves n)
    (h : run.outside first last = true) :
    (n + run.shift).toNat < first ∨ last < (n + run.shift).toNat := by
  obtain ⟨hfirst, hlast, -⟩ := hn
  simp only [outside, Bool.or_eq_true, Nat.blt_eq, low, high] at h
  omega

/-- The digits that are set are the multiples of the step, up to the last of the run. -/
theorem testBit_spread (step : Nat) {count k : Nat} (h : k ≤ count) :
    (spread step count).testBit (step * k) = true := by
  induction count generalizing k with
  | zero =>
    rw [Nat.le_zero.mp h, Nat.mul_zero, spread, Nat.testBit_one_zero]
  | succ count ih =>
    rw [spread, Nat.testBit_or]
    cases k with
    | zero => simp
    | succ k =>
      have hback : step * (k + 1) - step = step * k := by
        rw [Nat.mul_succ, Nat.add_sub_cancel]
      rw [Nat.testBit_shiftLeft, hback, ih (Nat.le_of_succ_le_succ h)]
      simp [Nat.mul_succ]

/-- A code point that a run moves is marked, and so is its counterpart among the counterparts: both
stand at the same distance from the least of their kind. -/
theorem CaseRun.testBit_marks {run : CaseRun} {n : Nat} (hn : run.Moves n) (least : Nat) :
    (run.marks least).testBit (least + (n - run.first)) = true := by
  obtain ⟨hfirst, hlast, hstep⟩ := hn
  have hplace : run.step * ((n - run.first) / run.step) = n - run.first :=
    Nat.mul_div_cancel' (Nat.dvd_of_mod_eq_zero hstep)
  have hcount : (n - run.first) / run.step ≤ (run.last - run.first) / run.step :=
    Nat.div_le_div_right (Nat.sub_le_sub_right hlast _)
  have hbit := testBit_spread run.step hcount
  rw [hplace] at hbit
  rw [marks, Nat.testBit_shiftLeft, Nat.add_sub_cancel_left, hbit]
  simp

/-- The code points that a run moves are marked as themselves. -/
theorem CaseRun.testBit_marks_first {run : CaseRun} {n : Nat} (hn : run.Moves n) :
    (run.marks run.first).testBit n = true := by
  have hbit := testBit_marks hn run.first
  rwa [Nat.add_sub_cancel' hn.1] at hbit

/-- Their counterparts are marked among the counterparts. -/
theorem CaseRun.testBit_marks_low {run : CaseRun} {n : Nat} (hn : run.Moves n)
    (hpos : 0 ≤ run.first + run.shift) :
    (run.marks run.low).testBit (n + run.shift).toNat = true := by
  have hcounterpart : run.low + (n - run.first) = (n + run.shift).toNat := by
    have := hn.1
    rw [low]
    omega
  have hbit := testBit_marks hn run.low
  rwa [hcounterpart] at hbit

/-- What some run moves is marked among all that is moved. -/
theorem testBit_movedMarks {runs : List CaseRun} {run : CaseRun} (hrun : run ∈ runs) {n : Nat}
    (hn : run.Moves n) : (movedMarks runs).testBit n = true := by
  induction runs with
  | nil => cases hrun
  | cons first rest ih =>
    rw [movedMarks, Nat.testBit_or, Bool.or_eq_true]
    rcases List.mem_cons.mp hrun with rfl | hrun
    · exact Or.inl (CaseRun.testBit_marks_first hn)
    · exact Or.inr (ih hrun)

/-- No run moves a counterpart whose marks the table has not, and so such a counterpart stays as it
is. -/
theorem CaseRun.lowerCode_of_marks {run : CaseRun} {n : Nat} (hn : run.Moves n)
    (hpos : 0 ≤ run.first + run.shift) {runs : List CaseRun}
    (h : run.marks run.low &&& movedMarks runs = 0) :
    lowerCode runs (n + run.shift).toNat = (n + run.shift).toNat := by
  rcases lowerCode_cases runs (n + run.shift).toNat with hfixed | ⟨other, hother, hmoves, -⟩
  · exact hfixed
  · have hboth := congrArg (Nat.testBit · (n + run.shift).toNat) h
    simp only [Nat.testBit_and, testBit_marks_low hn hpos, testBit_movedMarks hother hmoves,
      Nat.zero_testBit] at hboth
    nomatch hboth

/-- Every counterpart in the table is settled: the check of `caseRuns_settle`, read off at one code
point. -/
theorem CaseRun.settledCode {run : CaseRun} (hrun : run ∈ caseRuns) {n : Nat} (hn : run.Moves n) :
    SettledCode (n + run.shift).toNat := by
  have h := List.all_eq_true.mp caseRuns_settle run hrun
  simp only [settles, Bool.and_eq_true, Bool.or_eq_true, decide_eq_true_eq, List.all_eq_true,
    Nat.blt_eq, beq_iff_eq] at h
  obtain ⟨⟨⟨⟨⟨hpos, hscalar⟩, hhigh⟩, hdotted⟩, hblank⟩, hmarks⟩ := h
  constructor
  · exact lowerCode_of_marks hn hpos hmarks
  · have hbound : (n + run.shift).toNat ≤ run.high := by
      have := hn.2.1
      simp only [high]
      omega
    rcases hscalar with hs | hs
    · have := outside_apply hn hs
      exact Or.inl (by omega)
    · have := outside_apply hn hs
      exact Or.inr ⟨by omega, by omega⟩
  · rw [Bool.eq_false_iff]
    intro hcovers
    obtain ⟨range, hrange, hbounds⟩ := covers_cases hcovers
    have := outside_apply hn (hblank range hrange)
    omega
  · have := outside_apply hn hdotted
    omega

/-- Looking a code point up leaves it alone or gives a settled one. -/
theorem lowerCode_settled (n : Nat) :
    lowerCode caseRuns n = n ∨ SettledCode (lowerCode caseRuns n) := by
  rcases lowerCode_cases caseRuns n with h | ⟨run, hrun, hmoves, hcode⟩
  · exact Or.inl h
  · exact Or.inr (hcode ▸ run.settledCode hrun hmoves)

/-! ## Characters -/

/-- A character is settled: it is its own lowercase form and no capital sigma. -/
def Settled (c : Char) : Prop :=
  lowerChar c = [c] ∧ c ≠ capitalSigma

theorem toNat_ofNat_of_isValidChar {n : Nat} (h : n.isValidChar) : (Char.ofNat n).toNat = n := by
  rw [Char.ofNat, dif_pos h]
  rfl

/-- The character of a settled code point is settled and no blank. -/
theorem settled_ofNat {n : Nat} (h : SettledCode n) :
    Settled (Char.ofNat n) ∧ isBlank (Char.ofNat n) = false := by
  have hn := toNat_ofNat_of_isValidChar h.valid
  refine ⟨⟨?_, fun he => ?_⟩, ?_⟩
  · have hi : Char.ofNat n ≠ dottedCapitalI := fun he => h.notDotted (by rw [← he, hn])
    rw [lowerChar, if_neg hi, hn, h.fixed]
  · have hsigma : lowerCode caseRuns capitalSigma.toNat ≠ capitalSigma.toNat := by decide
    exact hsigma (by rw [← he, hn, h.fixed])
  · rw [isBlank, hn, h.notBlank]

/-- Every character of the lowercase form of a character other than the capital sigma is settled,
and no blank unless the character itself is one. The capital sigma has two lowercase forms, of which
its neighbours choose one, and it is looked at on its own. -/
theorem mem_lowerChar {c d : Char} (hsigma : c ≠ capitalSigma) (hd : d ∈ lowerChar c) :
    Settled d ∧ (isBlank c = false → isBlank d = false) := by
  by_cases hi : c = dottedCapitalI
  · have hparts : ∀ e ∈ lowerChar dottedCapitalI, Settled e ∧ isBlank e = false := by
      intro e he
      rw [lowerChar, if_pos rfl] at he
      rcases List.mem_cons.mp he with rfl | he
      · exact settled_ofNat (n := 0x69) (by decide)
      · rw [List.mem_singleton.mp he]
        exact settled_ofNat (n := 0x307) (by decide)
    subst hi
    exact ⟨(hparts d hd).1, fun _ => (hparts d hd).2⟩
  · have hlower : lowerChar c = [Char.ofNat (lowerCode caseRuns c.toNat)] := if_neg hi
    rw [hlower, List.mem_singleton] at hd
    rcases lowerCode_settled c.toNat with hfixed | hsettled
    · rw [hfixed, Char.ofNat_toNat] at hlower hd
      subst hd
      exact ⟨⟨hlower, hsigma⟩, id⟩
    · subst hd
      exact ⟨(settled_ofNat hsettled).1, fun _ => (settled_ofNat hsettled).2⟩

/-- Nothing is lost in lowercase: every character has a form, and so every text with characters has
one with characters. -/
theorem lowerChar_ne_nil (c : Char) : lowerChar c ≠ [] := by
  unfold lowerChar
  split <;> simp

/-- Both small forms of a capital sigma are settled and no blanks. -/
theorem settled_sigma (final : Bool) :
    Settled (if final then 'ς' else 'σ') ∧ isBlank (if final then 'ς' else 'σ') = false := by
  cases final
  · exact settled_ofNat (n := 0x3C3) (by decide)
  · exact settled_ofNat (n := 0x3C2) (by decide)

/-- **A character that is no counterpart** is in no lowercase form but its own. For one character
this is a test over the runs of the table; the slash and the final small sigma pass it. -/
theorem eq_of_mem_lowerChar {c d : Char} (hruns : caseRuns.all (·.outside d.toNat d.toNat) = true)
    (hdotted : d ∉ lowerChar dottedCapitalI) (hd : d ∈ lowerChar c) : c = d := by
  have hi : c ≠ dottedCapitalI := by
    rintro rfl
    exact hdotted hd
  rw [lowerChar, if_neg hi, List.mem_singleton] at hd
  rcases lowerCode_cases caseRuns c.toNat with hfixed | ⟨run, hrun, hmoves, hcode⟩
  · rw [hd, hfixed, Char.ofNat_toNat]
  · have hvalid := (run.settledCode hrun hmoves).valid
    have hout := CaseRun.outside_apply hmoves (List.all_eq_true.mp hruns run hrun)
    have hnat : d.toNat = (c.toNat + run.shift).toNat := by
      rw [hd, hcode, toNat_ofNat_of_isValidChar hvalid]
    omega

/-! ## Texts -/

/-- A settled text is its own lowercase form, whatever stands before it. -/
theorem lowerFrom_eq_self {cs : List Char} (h : ∀ c ∈ cs, Settled c) (behind : Bool) :
    lowerFrom behind cs = cs := by
  induction cs generalizing behind with
  | nil => rfl
  | cons c rest ih =>
    obtain ⟨hc, hrest⟩ := List.forall_mem_cons.mp h
    simp only [lowerFrom, if_neg hc.2, hc.1, ih hrest, List.singleton_append]

/-- **The lowercase form of a text is settled**, and has no blanks unless the text has. The two are
proved together because both follow the text character by character. -/
theorem mem_lowerFrom {cs : List Char} {behind : Bool} {d : Char} (hd : d ∈ lowerFrom behind cs) :
    Settled d ∧ ((∀ c ∈ cs, isBlank c = false) → isBlank d = false) := by
  induction cs generalizing behind with
  | nil => cases hd
  | cons c rest ih =>
    simp only [lowerFrom] at hd
    split at hd
    · rcases List.mem_cons.mp hd with rfl | hd
      · exact ⟨(settled_sigma _).1, fun _ => (settled_sigma _).2⟩
      · exact ⟨(ih hd).1, fun hb => (ih hd).2 (List.forall_mem_cons.mp hb).2⟩
    next hsigma =>
      rcases List.mem_append.mp hd with hd | hd
      · have hc := mem_lowerChar hsigma hd
        exact ⟨hc.1, fun hb => hc.2 (List.forall_mem_cons.mp hb).1⟩
      · exact ⟨(ih hd).1, fun hb => (ih hd).2 (List.forall_mem_cons.mp hb).2⟩

/-- **Lowercasing is idempotent**, whatever stands before the text and before its lowercase form.
What is in lowercase is settled, character by character. -/
theorem lowerFrom_lowerFrom (cs : List Char) (behind before : Bool) :
    lowerFrom before (lowerFrom behind cs) = lowerFrom behind cs :=
  lowerFrom_eq_self (fun _ hd => (mem_lowerFrom hd).1) before

theorem lowerFrom_ne_nil {cs : List Char} (h : cs ≠ []) (behind : Bool) :
    lowerFrom behind cs ≠ [] := by
  cases cs with
  | nil => exact absurd rfl h
  | cons c rest =>
    simp only [lowerFrom]
    split
    · exact List.cons_ne_nil _ _
    · exact List.append_ne_nil_of_left_ne_nil (lowerChar_ne_nil c) _

/-- A slash at the beginning of a lowercase form stood there before, as no other character has it in
its lowercase form. -/
theorem head?_of_head?_lowerFrom {cs : List Char} {behind : Bool}
    (h : (lowerFrom behind cs).head? = some '/') : cs.head? = some '/' := by
  cases cs with
  | nil => nomatch h
  | cons c rest =>
    rw [lowerFrom] at h
    split at h
    · cases casedSigma : (behind && !casedAhead rest) <;> rw [casedSigma] at h <;> nomatch h
    · rw [List.head?_append, List.head?_eq_some_head (lowerChar_ne_nil c), Option.some_or] at h
      have hmem : '/' ∈ lowerChar c := Option.some.inj h ▸ List.head_mem (lowerChar_ne_nil c)
      rw [eq_of_mem_lowerChar (by decide) (by decide) hmem]
      rfl

/-- A slash alone is the lowercase form of itself and of nothing else. -/
theorem lowerFrom_eq_slash_iff {cs : List Char} (behind : Bool) :
    lowerFrom behind cs = ['/'] ↔ cs = ['/'] := by
  have hsettled : ∀ c ∈ ['/'], Settled c := List.forall_mem_singleton.mpr ⟨by decide, by decide⟩
  constructor
  · intro h
    obtain ⟨rest, rfl⟩ := List.head?_eq_some_iff.mp (head?_of_head?_lowerFrom (by rw [h]; rfl))
    rw [lowerFrom,
      if_neg (by decide), (hsettled '/' List.mem_cons_self).1, List.singleton_append] at h
    by_cases hrest : rest = []
    · rw [hrest]
    · exact absurd (List.cons.inj h).2 (lowerFrom_ne_nil hrest _)
  · rintro rfl
    exact lowerFrom_eq_self hsettled behind

end Gazetteer.Text

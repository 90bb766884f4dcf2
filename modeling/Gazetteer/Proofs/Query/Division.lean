import Gazetteer.Proofs.Text.Trim
import Gazetteer.Query.Slots

/-!
# How a query divides

A query is five parts in a row: its leading digits, a slash, the digits after it, a blank, and the
rest. Each part but the rest may be empty, and each takes all that it can, so **a query divides in
one way** (`divides_iff`).

The same is a pattern of pieces, each of which takes a run of accepted characters and rather a
longer one. Among the ways in which the pieces may share the text the first is the division, and
there is one for every text (`head?_ways_headPattern`).
-/

namespace Gazetteer

open Text

/-! ## Runs -/

/-- A run of accepted characters that cannot be longer. What follows it is part of the notion, so
that a run is the longest one at its place and not just a run. -/
structure LongestRun (accepts : Char → Bool) (run after : List Char) : Prop where
  accepted : ∀ c ∈ run, accepts c = true
  ends : ∀ c ∈ after.head?, accepts c = false

/-- One accepted character where there is one, and nothing otherwise. -/
inductive OneIfNext (accepts : Char → Bool) : List Char → List Char → Prop
  | one {c : Char} (after : List Char) (hc : accepts c = true) : OneIfNext accepts [c] after
  | none {after : List Char} (ends : ∀ c ∈ after.head?, accepts c = false) :
    OneIfNext accepts [] after

/-- An accepted character taken off the front, if there is one. -/
def takeOne (accepts : Char → Bool) : List Char → List Char × List Char
  | [] => ([], [])
  | c :: rest => if accepts c then ([c], rest) else ([], c :: rest)

section

variable {accepts : Char → Bool} {run after : List Char}

/-- Taking characters as long as they are accepted takes the longest run, and there is only one that
is so taken. -/
theorem longestRun_takeWhile (accepts : Char → Bool) (cs : List Char) :
    LongestRun accepts (cs.takeWhile accepts) (cs.dropWhile accepts) where
  accepted := List.all_eq_true.mp List.all_takeWhile
  ends c hc := by
    have hfirst := List.head?_dropWhile_not accepts cs
    rwa [Option.mem_def.mp hc] at hfirst

theorem LongestRun.takeWhile_eq (h : LongestRun accepts run after) :
    (run ++ after).takeWhile accepts = run := by
  rw [List.takeWhile_append_of_pos h.accepted]
  cases after with
  | nil => rw [List.takeWhile_nil, List.append_nil]
  | cons c rest =>
    rw [List.takeWhile_cons_of_neg
      (by rw [h.ends c rfl]; exact Bool.false_ne_true), List.append_nil]

theorem LongestRun.dropWhile_eq (h : LongestRun accepts run after) :
    (run ++ after).dropWhile accepts = after := by
  have hsplit : run ++ (run ++ after).dropWhile accepts = run ++ after := by
    conv => lhs; lhs; rw [← h.takeWhile_eq]
    exact List.takeWhile_append_dropWhile
  exact List.append_cancel_left hsplit

/-- Taking one character if it comes next takes one if it comes next, and in one way only. -/
theorem oneIfNext_takeOne (accepts : Char → Bool) (cs : List Char) :
    OneIfNext accepts (takeOne accepts cs).1 (takeOne accepts cs).2 ∧
      (takeOne accepts cs).1 ++ (takeOne accepts cs).2 = cs := by
  cases cs with
  | nil => exact ⟨.none nofun, rfl⟩
  | cons c rest =>
    rw [takeOne]
    split
    next hc => exact ⟨.one rest hc, rfl⟩
    next hc =>
      refine ⟨.none fun d hd => ?_, rfl⟩
      obtain rfl := Option.some.inj hd
      exact Bool.eq_false_iff.mpr hc

theorem OneIfNext.ends (h : OneIfNext accepts [] after) : ∀ c ∈ after.head?, accepts c = false := by
  cases h
  assumption

theorem OneIfNext.takeOne_eq (h : OneIfNext accepts run after) :
    takeOne accepts (run ++ after) = (run, after) := by
  cases h with
  | one _ hc => exact if_pos hc
  | none ends =>
    cases after with
    | nil => rfl
    | cons c rest => exact if_neg (by rw [ends c rfl]; exact Bool.false_ne_true)

end

/-! ## Divisions -/

/-- Five parts of a query. -/
structure Division where
  lead : List Char
  separator : List Char
  trail : List Char
  gap : List Char
  rest : List Char
deriving DecidableEq

namespace Division

/-- The parts in order. -/
def parts (d : Division) : List (List Char) :=
  [d.lead, d.separator, d.trail, d.gap, d.rest]

/-- **A division of a query**: the longest run of digits, a slash if it comes next, the longest run
of digits after it, a blank if it comes next, and the rest. -/
structure Divides (d : Division) (query : List Char) : Prop where
  query_eq : query = d.lead ++ (d.separator ++ (d.trail ++ (d.gap ++ d.rest)))
  lead : LongestRun isDecimalDigit d.lead (d.separator ++ (d.trail ++ (d.gap ++ d.rest)))
  separator : OneIfNext (· == '/') d.separator (d.trail ++ (d.gap ++ d.rest))
  trail : LongestRun isDecimalDigit d.trail (d.gap ++ d.rest)
  gap : OneIfNext isBlank d.gap d.rest

/-- The division of a query. -/
def of (query : List Char) : Division :=
  let afterLead := query.dropWhile isDecimalDigit
  let afterSeparator := (takeOne (· == '/') afterLead).2
  let afterTrail := afterSeparator.dropWhile isDecimalDigit
  { lead := query.takeWhile isDecimalDigit
    separator := (takeOne (· == '/') afterLead).1
    trail := afterSeparator.takeWhile isDecimalDigit
    gap := (takeOne isBlank afterTrail).1
    rest := (takeOne isBlank afterTrail).2 }

/-- Taking the parts off the front, one after another, divides a query. -/
theorem divides_of (query : List Char) : (of query).Divides query := by
  obtain ⟨hseparator, hafterLead⟩ :=
    oneIfNext_takeOne (· == '/') (query.dropWhile isDecimalDigit)
  obtain ⟨hgap, hafterTrail⟩ := oneIfNext_takeOne isBlank
    ((takeOne (· == '/') (query.dropWhile isDecimalDigit)).2.dropWhile isDecimalDigit)
  constructor
  · rw [of]
    simp only [hafterTrail, List.takeWhile_append_dropWhile, hafterLead]
  · rw [of]
    simp only [hafterTrail, List.takeWhile_append_dropWhile, hafterLead]
    exact longestRun_takeWhile _ _
  · rw [of]
    simp only [hafterTrail, List.takeWhile_append_dropWhile]
    exact hseparator
  · rw [of]
    simp only [hafterTrail]
    exact longestRun_takeWhile _ _
  · exact hgap

theorem exists_divides (query : List Char) : ∃ d : Division, d.Divides query :=
  ⟨of query, divides_of query⟩

/-- **A query divides in one way.** Each part is settled by what is left when it is its turn. -/
theorem divides_iff {d : Division} {query : List Char} : d.Divides query ↔ d = of query := by
  constructor
  · intro h
    rw [h.query_eq, of]
    simp only [h.lead.takeWhile_eq, h.lead.dropWhile_eq, h.separator.takeOne_eq,
      h.trail.takeWhile_eq, h.trail.dropWhile_eq, h.gap.takeOne_eq]
  · rintro rfl
    exact divides_of query

end Division

/-! ## The pattern of a query -/

/-- A piece of a pattern: a run of accepted characters, of any length or of so many at most. -/
structure Piece where
  accepts : Char → Bool
  most : Option Nat

/-- The runs that can be taken off the front of a text, each with what it leaves, the longest
first. -/
def runsOff (accepts : Char → Bool) : Option Nat → List Char → List (List Char × List Char)
  | _, [] => [([], [])]
  | most, c :: rest =>
    if accepts c = true ∧ most ≠ some 0 then
      (runsOff accepts (most.map (· - 1)) rest).map (fun way => (c :: way.1, way.2)) ++
        [([], c :: rest)]
    else [([], c :: rest)]

/-- **The ways in which pieces share a whole text**, in the order in which they are tried: each
piece has its longest run first, and an earlier piece gives way only when those after it cannot have
the rest. -/
def ways : List Piece → List Char → List (List (List Char))
  | [], [] => [[]]
  | [], _ :: _ => []
  | piece :: pieces, cs =>
    (runsOff piece.accepts piece.most cs).flatMap fun way => (ways pieces way.2).map (way.1 :: ·)

/-- Digits, one slash, digits, one blank, and anything; all of them may be missing. -/
def headPattern : List Piece :=
  [⟨isDecimalDigit, none⟩, ⟨(· == '/'), some 1⟩, ⟨isDecimalDigit, none⟩, ⟨isBlank, some 1⟩,
   ⟨fun _ => true, none⟩]

section

variable {accepts : Char → Bool}

/-- Of the runs of any length the longest comes first, as a greedy pattern tries it first. -/
theorem head?_runsOff_none (cs : List Char) :
    (runsOff accepts none cs).head? = some (cs.takeWhile accepts, cs.dropWhile accepts) := by
  induction cs with
  | nil => rfl
  | cons c rest ih =>
    rw [runsOff]
    split
    next hc =>
      rw [Option.map_none, List.head?_append, List.head?_map, ih, List.takeWhile_cons_of_pos hc.1,
        List.dropWhile_cons_of_pos hc.1]
      rfl
    next hc =>
      have hreject : ¬ accepts c = true := fun h => hc ⟨h, nofun⟩
      rw [List.takeWhile_cons_of_neg hreject, List.dropWhile_cons_of_neg hreject]
      rfl

theorem head?_runsOff_one (cs : List Char) :
    (runsOff accepts (some 1) cs).head? = some (takeOne accepts cs) := by
  cases cs with
  | nil => rfl
  | cons c rest =>
    rw [runsOff, takeOne]
    split
    next hc =>
      rw [if_pos hc.1]
      cases rest with
      | nil => rfl
      | cons d rest =>
        rw [runsOff, if_neg (fun h => h.2 rfl)]
        rfl
    next hc =>
      rw [if_neg fun h => hc ⟨h, nofun⟩]
      rfl

/-- The first way is the first run of the first piece, if the others can have the rest. No run has
to be given back then, which is what makes the pattern of a query a matter of one pass. -/
theorem head?_ways_cons {piece : Piece} {pieces : List Piece} {cs run after : List Char}
    {more : List (List Char)}
    (hrun : (runsOff piece.accepts piece.most cs).head? = some (run, after))
    (hmore : (ways pieces after).head? = some more) :
    (ways (piece :: pieces) cs).head? = some (run :: more) := by
  obtain ⟨others, hothers⟩ := List.head?_eq_some_iff.mp hrun
  rw [ways, hothers, List.flatMap_cons, List.head?_append, List.head?_map, hmore]
  rfl

end

/-- **Every query has the pattern, and its division is the first way.** -/
theorem head?_ways_headPattern (query : List Char) :
    (ways headPattern query).head? = some (Division.of query).parts := by
  refine head?_ways_cons (head?_runsOff_none _) ?_
  refine head?_ways_cons (head?_runsOff_one _) ?_
  refine head?_ways_cons (head?_runsOff_none _) ?_
  refine head?_ways_cons (head?_runsOff_one _) ?_
  have hall : ∀ cs : List Char, (runsOff (fun _ => true) none cs).head? = some (cs, []) := by
    intro cs
    have hwhole : LongestRun (fun _ => true) cs [] := ⟨fun _ _ => rfl, nofun⟩
    have htake := hwhole.takeWhile_eq
    have hdrop := hwhole.dropWhile_eq
    rw [List.append_nil] at htake hdrop
    rw [head?_runsOff_none, htake, hdrop]
  exact head?_ways_cons (hall _) rfl

/-! ## The head of a query -/

theorem isBlank_of_isDecimalDigit {c : Char} (h : isDecimalDigit c = true) : isBlank c = false :=
  @covers_eq_false_of_marks decimalDigitRanges blankRanges (by decide) _ h

theorem dropBlank_eq (cs : List Char) : Slots.dropBlank cs = (takeOne isBlank cs).2 := by
  cases cs with
  | nil => rfl
  | cons c rest =>
    rw [Slots.dropBlank, takeOne]
    split <;> rfl

/-- **The head that is split off** is the division, with the leading digits for the flat if a slash
follows them and for the street number if not. -/
theorem splitHead_eq (query : List Char) :
    Slots.splitHead query =
      if (Division.of query).separator = [] then
        ⟨[], (Division.of query).lead, (Division.of query).rest⟩
      else ⟨(Division.of query).lead, (Division.of query).trail, (Division.of query).rest⟩ := by
  rw [Slots.splitHead, Division.of]
  split
  next rest hslash =>
    simp only [hslash, takeOne, beq_self_eq_true, if_true, dropBlank_eq]
    rw [if_neg (List.cons_ne_nil _ _)]
  next hslash =>
    have hnone : OneIfNext (· == '/') [] (query.dropWhile isDecimalDigit) := by
      refine .none fun c hc => beq_false_of_ne ?_
      rintro rfl
      obtain ⟨rest, hrest⟩ := List.head?_eq_some_iff.mp hc
      exact hslash rest hrest
    have hdigits : LongestRun isDecimalDigit [] (query.dropWhile isDecimalDigit) :=
      ⟨List.forall_mem_nil _, (longestRun_takeWhile isDecimalDigit query).ends⟩
    have htake := hnone.takeOne_eq
    have hdrop := hdigits.dropWhile_eq
    rw [List.nil_append] at htake hdrop
    simp only [htake, hdrop, dropBlank_eq, if_true]

/-- Either way the rest is the rest of the division. -/
theorem rest_splitHead (query : List Char) :
    (Slots.splitHead query).rest = (Division.of query).rest := by
  rw [splitHead_eq]
  split <;> rfl

namespace Division

/-- The digits, and the slash between them. -/
def numbers (d : Division) : List Char :=
  d.lead ++ (d.separator ++ d.trail)

/-- What comes before the rest. -/
def head (d : Division) : List Char :=
  d.numbers ++ d.gap

variable {d : Division} {query : List Char}

theorem Divides.numbers_append (h : d.Divides query) : query = d.numbers ++ (d.gap ++ d.rest) := by
  rw [h.query_eq, numbers]
  simp only [List.append_assoc]

theorem Divides.head_append_rest (h : d.Divides query) : query = d.head ++ d.rest := by
  rw [h.numbers_append, head, List.append_assoc]

theorem Divides.rest_infix_query (h : d.Divides query) : d.rest <:+: query :=
  ⟨d.head, [], by rw [List.append_nil, h.head_append_rest]⟩

/-- What separates the digits is a slash, or nothing. -/
theorem Divides.separator_cases (h : d.Divides query) : d.separator = [] ∨ d.separator = ['/'] := by
  have hone := h.separator
  generalize d.separator = separator at hone
  cases hone with
  | one _ hc => exact Or.inr (by rw [eq_of_beq hc])
  | none _ => exact Or.inl rfl

/-- The gap is one blank at most. Further blanks begin the rest, and are trimmed off there. -/
theorem Divides.blanks_gap (h : d.Divides query) : Blanks d.gap := by
  have hone := h.gap
  generalize d.gap = gap at hone
  cases hone with
  | one _ hc => exact fun c hm => List.mem_singleton.mp hm ▸ hc
  | none _ => exact blanks_nil

/-- Without a slash there are no digits after it: the leading run has taken them all. -/
theorem Divides.trail_eq_nil (h : d.Divides query) (hseparator : d.separator = []) :
    d.trail = [] := by
  have hends := h.lead.ends
  rw [hseparator, List.nil_append] at hends
  cases htrail : d.trail with
  | nil => rfl
  | cons c rest =>
    have hdigit := h.trail.accepted c (htrail ▸ List.mem_cons_self)
    rw [hends c (by rw [htrail]; rfl)] at hdigit
    cases hdigit

/-- The numbers have nothing but digits and the slash. -/
theorem Divides.mem_numbers (h : d.Divides query) {c : Char} (hc : c ∈ d.numbers) :
    isDecimalDigit c = true ∨ c = '/' := by
  simp only [numbers, List.mem_append] at hc
  rcases hc with hlead | hseparator | htrail
  · exact Or.inl (h.lead.accepted c hlead)
  · rcases h.separator_cases with hnone | hone
    · rw [hnone] at hseparator
      cases hseparator
    · rw [hone] at hseparator
      exact Or.inr (List.mem_singleton.mp hseparator)
  · exact Or.inl (h.trail.accepted c htrail)

/-- A character of the head is a digit, a slash or a blank. A word that has none of these begins
behind it. -/
theorem Divides.mem_head (h : d.Divides query) {c : Char} (hc : c ∈ d.head) :
    isDecimalDigit c = true ∨ c = '/' ∨ isBlank c = true := by
  rcases List.mem_append.mp hc with hnumbers | hgap
  · rcases h.mem_numbers hnumbers with hdigit | hslash
    · exact Or.inl hdigit
    · exact Or.inr (Or.inl hslash)
  · exact Or.inr (Or.inr (h.blanks_gap c hgap))

end Division

end Gazetteer

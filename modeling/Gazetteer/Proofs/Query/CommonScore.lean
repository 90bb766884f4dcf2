import Gazetteer.Proofs.Index.Matching
import Gazetteer.Proofs.Score.Sum
import Gazetteer.Query.Strategy

/-!
# The score that all matches of a query share

No strategy asks for exact terms, so no document scores by how rare its terms are or how long its
fields. A term weighs what its clause says, one or two, and **all documents that match the plan of a
query have one score** (`worth_eq_commonScore`). It is at least one, because a clause without terms
counts as one (`atLeastOne_commonScore`), and a natural as long as it has at most 24 binary digits
(`commonScore_eq_scoreOfNat`).
-/

namespace Gazetteer

open Index

/-! ## Clauses without exact terms -/

/-- How often a clause without exact terms counts each of its terms. -/
def Clause.weight (clause : Clause) : Nat :=
  if clause.boost = Strategy.strongBoost then 2 else 1

/-- A clause without exact terms, each of which counts once or twice. -/
structure Clause.Inexact (clause : Clause) : Prop where
  mode_ne : clause.mode ≠ .exact
  boost_eq : clause.boost = scoreOfNat clause.weight

/-- What a clause without exact terms is worth: its boost once for each term, or one if it has
none. -/
def Clause.part (clause : Clause) : Score :=
  if terms clause.value = [] then 1
  else sumScores (List.replicate (terms clause.value).length clause.boost)

/-- What a clause counts for: its weight times the number of its terms, or one if it has none. -/
def Clause.points (clause : Clause) : Nat :=
  if terms clause.value = [] then 1 else clause.weight * (terms clause.value).length

/-- A sum of equal shares does not depend on their order. Adding singles is not associative, and
which share comes first is otherwise a matter of how many documents each clause matches. -/
theorem sumShares_of_forall_eq {shares : List Share} {x : Score}
    (h : ∀ share ∈ shares, share.2 = x) :
    sumShares shares = sumScores (List.replicate shares.length x) := by
  rw [sumShares]
  congr 1
  refine List.eq_replicate_iff.mpr ⟨by simp, fun y hy => ?_⟩
  obtain ⟨share, hshare, rfl⟩ := List.mem_map.mp hy
  exact h share (List.mem_mergeSort.mp hshare)

/-- **A clause without exact terms is worth the same for every document.** Its terms weigh its boost
each, and how often a document has them is not looked at. -/
theorem worth_eq_part (documents : List Document) {clause : Clause} (h : clause.mode ≠ .exact)
    (d : Document) : (Probe.of documents clause).worth d = clause.part := by
  have hweight : ∀ statistics, (Probe.of documents clause).weight d statistics = clause.boost := by
    intro statistics
    rw [Probe.weight, Probe.of]
    cases hmode : clause.mode with
    | exact => exact absurd hmode h
    | leading => rfl
    | near tolerance => rfl
  rw [Probe.worth, Clause.part, ← map_fst_terms_of documents clause, List.length_map]
  cases (Probe.of documents clause).terms with
  | nil => rfl
  | cons first rest =>
    refine (sumShares_of_forall_eq (x := clause.boost) fun share hshare => ?_).trans ?_
    · obtain ⟨⟨wanted, statistics⟩, -, rfl⟩ := List.mem_map.mp hshare
      exact hweight statistics
    · rw [List.length_map, List.map_cons, if_neg (List.cons_ne_nil _ _)]

theorem scoreOfNat_one : scoreOfNat 1 = 1 := by
  decide

theorem scoreOfNat_two : scoreOfNat 2 = 2 := by
  decide

/-- A weight is at least one. -/
theorem atLeastOne_weight (clause : Clause) : (scoreOfNat clause.weight).AtLeastOne := by
  rw [Clause.weight]
  split
  · exact scoreOfNat_two ▸ Score.atLeastOne_two
  · exact scoreOfNat_one ▸ Score.atLeastOne_one

/-- What a clause is worth is at least one, since each of its terms is; a clause without terms is
worth one by itself. -/
theorem Clause.Inexact.atLeastOne_part {clause : Clause} (h : clause.Inexact) :
    clause.part.AtLeastOne := by
  rw [Clause.part]
  split
  · exact Score.atLeastOne_one
  next hterms =>
    refine Score.atLeastOne_sumScores (by simpa using hterms) fun x hx => ?_
    rw [List.eq_of_mem_replicate hx, h.boost_eq]
    exact atLeastOne_weight clause

/-- A clause's part in a score is its points, as long as these have at most 24 binary digits. Beyond
that the sum is rounded on the way. -/
theorem Clause.Inexact.part_eq {clause : Clause} (h : clause.Inexact)
    (hpoints : clause.points < 2 ^ 24) :
    clause.part = scoreOfNat clause.points := by
  rw [Clause.points] at hpoints ⊢
  rw [Clause.part]
  split at hpoints
  next hterms =>
    rw [if_pos hterms, if_pos hterms, scoreOfNat_one]
  next hterms =>
    have hsum : (List.replicate (terms clause.value).length clause.weight).sum =
        clause.weight * (terms clause.value).length := by
      rw [List.sum_replicate_nat, Nat.mul_comm]
    rw [if_neg hterms, if_neg hterms, h.boost_eq, ← List.map_replicate,
      Score.sumScores_scoreOfNat (by rw [hsum]; exact hpoints), hsum]

/-- The parts of clauses are their points, as long as these have at most 24 binary digits in
total. -/
theorem map_part_eq {clauses : List Clause} (h : ∀ clause ∈ clauses, clause.Inexact)
    (hpoints : (clauses.map Clause.points).sum < 2 ^ 24) :
    clauses.map Clause.part = (clauses.map Clause.points).map scoreOfNat := by
  induction clauses with
  | nil => rfl
  | cons clause rest ih =>
    obtain ⟨hclause, hrest⟩ := List.forall_mem_cons.mp h
    rw [List.map_cons, List.sum_cons] at hpoints
    rw [List.map_cons, List.map_cons, List.map_cons,
      hclause.part_eq (by omega), ih hrest (by omega)]

/-! ## Strategies -/

/-- A clause on the beginning of a value has no exact terms and counts each once. The weight of an
exact term would go by how rare it is. -/
theorem inexact_leading (field : Field) (value : String) :
    (Clause.leading field value).Inexact where
  mode_ne := nofun
  boost_eq := by
    have hweight : (Clause.leading field value).weight = 1 :=
      if_neg (show Clause.plainBoost ≠ Strategy.strongBoost by decide)
    rw [hweight, scoreOfNat_one]
    rfl

theorem inexact_near (field : Field) (value : String) : (Clause.near field value).Inexact where
  mode_ne := nofun
  boost_eq := (inexact_leading field value).boost_eq

/-- A clause stays one without exact terms when it is made to count twice. -/
theorem Clause.Inexact.boosted {clause : Clause} (h : clause.Inexact) :
    (clause.boosted Strategy.strongBoost).Inexact where
  mode_ne := h.mode_ne
  boost_eq := by
    rw [Clause.weight, Clause.boosted, if_pos rfl, scoreOfNat_two]
    rfl

/-- **No strategy asks for exact terms**, and every one weighs its clauses once or twice. The
strategies are gone through here, and nowhere else for their scores. -/
theorem inexact_of_mem_clauses {strategy : Strategy} {s : Slots} :
    ∀ clause ∈ strategy.clauses s, clause.Inexact := by
  have hflat : (Strategy.flatClause s).Inexact := inexact_leading _ _
  have hnumber : (Strategy.numberClause s).Inexact := inexact_leading _ _
  have hstrong : (Strategy.strongNumberClause s).Inexact := hnumber.boosted
  have hname : (Strategy.nameClause s).Inexact := (inexact_leading _ _).boosted
  have hnear : (Strategy.nearNameClause s).Inexact := (inexact_near _ _).boosted
  have htype : (Strategy.typeClause s).Inexact := inexact_near _ _
  have hsuburb : (Strategy.suburbClause s).Inexact := inexact_near _ _
  have hfilled : ∀ clause ∈ Strategy.filledClauses s, clause.Inexact := by
    intro clause hclause
    simp only [Strategy.filledClauses, List.mem_append] at hclause
    rcases hclause with (((hmem | hmem) | hmem) | hmem) | hmem
    all_goals
      split at hmem
      · exact List.mem_singleton.mp hmem ▸ by assumption
      · cases hmem
  cases strategy with
  | composite => exact hfilled
  | _ => simp [Strategy.clauses, *]

/-! ## Plans -/

/-- The plan of a query asks for every address or for clauses, and for no exact terms. -/
structure Plan.Inexact (plan : Plan) : Prop where
  inexact : ∀ clause ∈ plan.clauses, clause.Inexact
  clauses_ne_nil : plan ≠ .everything → plan.clauses ≠ []

/-- **Every query leads to a plan without exact terms**, whichever strategy is chosen. The
strategies are gone through one by one. -/
theorem inexact_interpret (lexicon : Lexicon) (query : String) :
    (interpret lexicon query).planned.plan.Inexact := by
  simp only [interpret, Slots.planned, Strategy.plan]
  refine ⟨?_, fun hne hnil => hne ?_⟩
  · rw [clauses_ofClauses]
    exact inexact_of_mem_clauses
  · rw [clauses_ofClauses] at hnil
    rw [hnil]
    rfl

/-- The clauses of a plan in the order in which their parts are added: those that fewer documents
match come first. -/
def clauseOrder (documents : List Document) (plan : Plan) : List Clause :=
  plan.clauses.mergeSort fun a b =>
    decide ((Probe.of documents a).matching ≤ (Probe.of documents b).matching)

/-- The parts are added in some order of the clauses. Adding singles is not associative, so that the
order would matter if the sums were not exact. -/
theorem clauseOrder_perm (documents : List Document) (plan : Plan) :
    (clauseOrder documents plan).Perm plan.clauses :=
  List.mergeSort_perm _ _

/-- **The score of all documents that match a plan without exact terms.** -/
def commonScore (documents : List Document) (plan : Plan) : Score :=
  match plan with
  | .everything => 1
  | plan => sumScores ((clauseOrder documents plan).map Clause.part)

/-- What a plan counts for. -/
def Plan.points (plan : Plan) : Nat :=
  match plan with
  | .everything => 1
  | plan => (plan.clauses.map Clause.points).sum

/-- A plan of clauses has the sum of their parts. -/
theorem commonScore_of_ne {plan : Plan} (h : plan ≠ .everything) (documents : List Document) :
    commonScore documents plan = sumScores ((clauseOrder documents plan).map Clause.part) := by
  cases plan with
  | everything => exact absurd rfl h
  | single clause => rfl
  | conjunction clauses => rfl

theorem Plan.points_of_ne {plan : Plan} (h : plan ≠ .everything) :
    plan.points = (plan.clauses.map Clause.points).sum := by
  cases plan with
  | everything => exact absurd rfl h
  | single clause => rfl
  | conjunction clauses => rfl

/-- Adding up shares sorts them by how many documents match their clause; what is left of that in
the score is the order of the parts. -/
theorem sumShares_worthShare (documents : List Document) {plan : Plan} (h : plan.Inexact)
    (d : Document) :
    sumShares (plan.clauses.map fun clause => (Probe.of documents clause).worthShare d) =
      sumScores ((clauseOrder documents plan).map Clause.part) := by
  have hsort :
    (clauseOrder documents plan).map (fun clause => (Probe.of documents clause).worthShare d) =
      (plan.clauses.map fun clause => (Probe.of documents clause).worthShare d).mergeSort
        fun a b => decide (a.1 ≤ b.1) :=
    List.map_mergeSort fun _ _ _ _ => rfl
  rw [sumShares, ← hsort, List.map_map]
  congr 1
  refine List.map_congr_left fun clause hclause => ?_
  have hinexact := h.inexact clause ((clauseOrder_perm documents plan).mem_iff.mp hclause)
  exact worth_eq_part documents hinexact.mode_ne d

/-- **All documents that match a plan without exact terms have one score.** The document is on the
left side only. -/
theorem worth_eq_commonScore (documents : List Document) {plan : Plan} (h : plan.Inexact)
    (d : Document) : worth documents plan d = commonScore documents plan := by
  cases plan with
  | everything => rfl
  | single clause => exact sumShares_worthShare documents h d
  | conjunction clauses => exact sumShares_worthShare documents h d

/-- **The common score is at least one**, as every clause is worth at least one and rounding takes
no sum below it. -/
theorem atLeastOne_commonScore (documents : List Document) {plan : Plan} (h : plan.Inexact) :
    (commonScore documents plan).AtLeastOne := by
  by_cases hplan : plan = .everything
  · subst hplan
    exact Score.atLeastOne_one
  · have hperm := clauseOrder_perm documents plan
    rw [commonScore_of_ne hplan]
    refine Score.atLeastOne_sumScores (fun hnil => ?_) fun x hx => ?_
    · rw [List.map_eq_nil_iff] at hnil
      rw [hnil] at hperm
      exact h.clauses_ne_nil hplan hperm.symm.eq_nil
    · obtain ⟨clause, hclause, rfl⟩ := List.mem_map.mp hx
      exact (h.inexact clause (hperm.mem_iff.mp hclause)).atLeastOne_part

/-- **The common score is the number of points** as long as these have at most 24 binary digits. Up
to there the order of adding leaves no trace either. -/
theorem commonScore_eq_scoreOfNat (documents : List Document) {plan : Plan} (h : plan.Inexact)
    (hpoints : plan.points < 2 ^ 24) : commonScore documents plan = scoreOfNat plan.points := by
  by_cases hplan : plan = .everything
  · subst hplan
    exact scoreOfNat_one.symm
  · have hperm := clauseOrder_perm documents plan
    have hsum : ((clauseOrder documents plan).map Clause.points).sum = plan.points := by
      rw [Plan.points_of_ne hplan]
      exact (hperm.map Clause.points).sum_nat
    have hinexact : ∀ clause ∈ clauseOrder documents plan, clause.Inexact := fun clause hclause =>
      h.inexact clause (hperm.mem_iff.mp hclause)
    rw [commonScore_of_ne hplan, map_part_eq hinexact (by omega),
      Score.sumScores_scoreOfNat (by omega), hsum]

/-- **What the common score of a plan is**: one for the plan of every address, and otherwise the sum
over its clauses of what each is worth. -/
structure IsCommonScore (plan : Plan) (score : Score) : Prop where
  /-- It is at least one, and in particular a number. -/
  eq_one_or_exceeds : score = 1 ∨ Score.exceeds score 1 = true
  eq_one : plan = .everything → score = 1
  eq_sum : plan ≠ .everything → ∃ order : List Clause, order.Perm plan.clauses ∧
    score = sumScores (order.map Clause.part)
  /-- A clause's boost is its weight. -/
  boost_eq : ∀ clause ∈ plan.clauses, clause.boost = scoreOfNat clause.weight
  /-- As long as it has at most 24 binary digits it is the number of points. -/
  eq_points : plan.points < 2 ^ 24 → score = scoreOfNat plan.points

/-- The common score of a plan is what it is said to be. -/
theorem isCommonScore_commonScore (documents : List Document) {plan : Plan} (h : plan.Inexact) :
    IsCommonScore plan (commonScore documents plan) where
  eq_one_or_exceeds := (atLeastOne_commonScore documents h).eq_one_or_exceeds
  eq_one := by
    rintro rfl
    rfl
  eq_sum hplan := ⟨_, clauseOrder_perm documents plan, commonScore_of_ne hplan documents⟩
  boost_eq clause hclause := (h.inexact clause hclause).boost_eq
  eq_points := commonScore_eq_scoreOfNat documents h

end Gazetteer

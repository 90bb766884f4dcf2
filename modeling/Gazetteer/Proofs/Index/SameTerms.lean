import Gazetteer.Proofs.Index.Search

/-!
# Plans with the same terms

Of the value of a clause a search sees only its terms. So other values with the same terms, clause
by clause, make a plan that **the same documents match, with the same scores** (`score?_mapValues`),
and every search for it has the same result (`AddressIndex.search_mapValues`).
-/

namespace Gazetteer

open Index

variable {f : String → String} {d : Document}

/-! ## Clauses -/

namespace Clause

/-- The clause with what a function makes of its value. -/
def mapValue (f : String → String) (clause : Clause) : Clause :=
  { clause with value := f clause.value }

/-- **A function keeps the terms of a clause's value.** -/
def KeepsTerms (f : String → String) (clause : Clause) : Prop :=
  terms (f clause.value) = terms clause.value

variable {clause : Clause}

/-- The same terms are looked for in the same field, so that the clause is matched by the same
documents. -/
theorem matches_mapValue_iff (h : clause.KeepsTerms f) :
    (clause.mapValue f).Matches d ↔ clause.Matches d := by
  rw [KeepsTerms] at h
  simp only [Matches, mapValue, h]

/-- The share of a clause in a score is computed from its terms, its field and its boost, and none
of these has changed. -/
theorem worthShare_mapValue (h : clause.KeepsTerms f) (documents : List Document) (d : Document) :
    (Probe.of documents (clause.mapValue f)).worthShare d =
      (Probe.of documents clause).worthShare d := by
  rw [KeepsTerms] at h
  simp only [Probe.worthShare, Probe.worth, Probe.of, Probe.weight, mapValue, h]
  rfl

end Clause

/-! ## Plans -/

namespace Plan

/-- The plan with what a function makes of the values of its clauses. -/
def mapValues (f : String → String) : Plan → Plan
  | .everything => .everything
  | .single clause => .single (clause.mapValue f)
  | .conjunction clauses => .conjunction (clauses.map (·.mapValue f))

/-- A plan of clauses with other values is the plan with other values. The form of a plan goes by
the number of its clauses. -/
theorem ofClauses_map_mapValue (f : String → String) (clauses : List Clause) :
    ofClauses (clauses.map (·.mapValue f)) = (ofClauses clauses).mapValues f := by
  match clauses with
  | [] => rfl
  | [_] => rfl
  | _ :: _ :: _ => rfl

variable {plan : Plan}

/-- The same documents match, whatever the form of the plan. -/
theorem matches_mapValues_iff (h : ∀ clause ∈ plan.clauses, clause.KeepsTerms f) :
    (plan.mapValues f).Matches d ↔ plan.Matches d := by
  cases plan with
  | everything => exact Iff.rfl
  | single clause => exact Clause.matches_mapValue_iff (h clause (List.mem_singleton_self clause))
  | conjunction clauses =>
    simp only [mapValues, Matches, ne_eq, List.map_eq_nil_iff, List.forall_mem_map]
    exact and_congr_right fun _ => forall₂_congr fun clause hclause =>
      Clause.matches_mapValue_iff (h clause hclause)

/-- And they are worth the same, clause by clause: the weight of a term depends on the term, the
field and the index. -/
theorem worth_mapValues (h : ∀ clause ∈ plan.clauses, clause.KeepsTerms f)
    (documents : List Document)
    (d : Document) : worth documents (plan.mapValues f) d = worth documents plan d := by
  cases plan with
  | everything => rfl
  | single clause =>
    have hshare :=
      Clause.worthShare_mapValue (h clause (List.mem_singleton_self clause)) documents d
    simp only [mapValues, worth, clauses, List.map_cons, List.map_nil, hshare]
  | conjunction clauses =>
    simp only [mapValues, worth, Plan.clauses, List.map_map]
    refine congrArg sumShares (List.map_congr_left fun clause hclause => ?_)
    exact Clause.worthShare_mapValue (h clause hclause) documents d

/-- **The same documents have the same scores**, and the others none. -/
theorem score?_mapValues (h : ∀ clause ∈ plan.clauses, clause.KeepsTerms f)
    (documents : List Document) (d : Document) :
    (Matcher.of documents (plan.mapValues f)).score? d = (Matcher.of documents plan).score? d := by
  apply Option.ext
  intro score
  rw [score?_of_eq_some_iff, score?_of_eq_some_iff, matches_mapValues_iff h, worth_mapValues h]

end Plan

/-- **Every search has the same result**, whatever it is sorted by and however long it may be. -/
theorem AddressIndex.search_mapValues (index : AddressIndex) {plan : Plan}
    (h : ∀ clause ∈ plan.clauses, clause.KeepsTerms f) (sort : SortSpec) (limit : Nat) :
    index.search (plan.mapValues f) sort limit = index.search plan sort limit := by
  have hscored : index.scored (plan.mapValues f) = index.scored plan := by
    simp only [scored, Plan.score?_mapValues h]
  rw [search_eq_rank, search_eq_rank, hscored]

end Gazetteer

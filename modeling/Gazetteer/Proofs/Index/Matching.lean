import Gazetteer.Index.Matching
import Gazetteer.Index.Relevance
import Gazetteer.Proofs.Index.EditDistance

/-!
# What a matcher finds, and at what score

The matcher of a plan scores a document **exactly when the document matches the plan**
(`score?_of_eq_some_iff`). Its score is then a sum that never fails: over the clauses, of what each
is worth for the document.
-/

namespace Gazetteer.Index

/-! ## Clauses -/

/-- The test of one term is the relation that match modes are specified by. For near modes this is
that the bounded search for edits decides the distance. -/
theorem meets_iff (mode : MatchMode) (wanted term : String) :
    meets mode wanted term = true ↔ mode.Meets wanted term := by
  cases mode with
  | leading => exact List.isPrefixOf_iff_prefix
  | exact => exact beq_iff_eq
  | near tolerance => exact withinEdits_iff _ _ _

/-- The test of one clause asks of each of its terms what matching asks. -/
theorem meetsAll_iff (clause : Clause) (d : Document) :
    meetsAll clause (terms clause.value) d = true ↔ clause.Matches d := by
  simp only [meetsAll, List.all_eq_true, meetsSome, List.any_eq_true, meets_iff, Clause.Matches]

/-- The probe of a clause looks for the terms of its value, in their order, and what it adds to them
is only their weights. -/
theorem map_fst_terms_of (documents : List Document) (clause : Clause) :
    (Probe.of documents clause).terms.map (·.1) = terms clause.value := by
  simp [Probe.of, Function.comp_def]

/-- What a clause is worth for a document that matches it. -/
def Probe.worth (p : Probe) (d : Document) : Score :=
  match p.terms with
  | [] => 1
  | terms => sumShares <| terms.map fun (_, statistics) =>
    (statistics.withTerm, p.weight d statistics)

/-- A probe scores what it matches, and there at its worth. Matching and scoring can be treated
apart from here on. -/
theorem Probe.score?_eq (p : Probe) (d : Document) :
    p.score? d = if meetsAll p.clause (p.terms.map (·.1)) d then some (p.worth d) else none := by
  rw [Probe.score?, Probe.worth]
  cases p.terms <;> rfl

/-- The share of a clause in the score of a document that matches it. -/
def Probe.worthShare (p : Probe) (d : Document) : Share :=
  (p.matching, p.worth d)

/-- **A clause has a share exactly where it is matched**, and the share is what its probe makes of
the document. A clause whose value has no terms is matched everywhere. -/
theorem Probe.share?_of_eq_some_iff (documents : List Document) (clause : Clause) (d : Document)
    (share : Share) :
    (Probe.of documents clause).share? d = some share ↔
      clause.Matches d ∧ (Probe.of documents clause).worthShare d = share := by
  rw [Probe.share?, Probe.score?_eq, map_fst_terms_of,
    show (Probe.of documents clause).clause = clause from rfl, ← meetsAll_iff]
  split
  next hmeets => simp [hmeets, Probe.worthShare]
  next hmeets => simp [hmeets]

/-! ## Plans -/

/-- The clauses of a conjunction have shares together exactly if each has one; the list of them is
then the one that their worths make up. -/
theorem mapM_share?_eq_some_iff (documents : List Document) (clauses : List Clause) (d : Document)
    (shares : List Share) :
    ((clauses.map (Probe.of documents)).mapM fun p : Probe => p.share? d) = some shares ↔
      (∀ clause ∈ clauses, clause.Matches d) ∧
        clauses.map (fun clause => (Probe.of documents clause).worthShare d) = shares := by
  induction clauses generalizing shares with
  | nil => simp
  | cons clause rest ih =>
    rw [List.map_cons, List.mapM_cons, List.forall_mem_cons]
    constructor
    · intro h
      obtain ⟨share, hshare, h⟩ := Option.bind_eq_some_iff.mp h
      obtain ⟨others, hothers, h⟩ := Option.bind_eq_some_iff.mp h
      obtain ⟨hmatches, rfl⟩ := (Probe.share?_of_eq_some_iff ..).mp hshare
      obtain ⟨hall, rfl⟩ := (ih others).mp hothers
      exact ⟨⟨hmatches, hall⟩, Option.some.inj h⟩
    · rintro ⟨⟨hmatches, hall⟩, rfl⟩
      rw [(Probe.share?_of_eq_some_iff ..).mpr ⟨hmatches, rfl⟩, (ih _).mpr ⟨hall, rfl⟩]
      rfl

/-- The score of a document that matches a plan. -/
def worth (documents : List Document) (plan : Plan) (d : Document) : Score :=
  match plan with
  | .everything => 1
  | plan => sumShares (plan.clauses.map fun clause => (Probe.of documents clause).worthShare d)

/-- **A document has a score exactly where it matches the plan.** The scorer stops at the first
clause that is not matched; what it returns where none stops it is the worth. -/
theorem score?_of_eq_some_iff (documents : List Document) (plan : Plan) (d : Document)
    (score : Score) :
    (Matcher.of documents plan).score? d = some score ↔
      plan.Matches d ∧ worth documents plan d = score := by
  have hprobes :
    ∀ first rest, (Matcher.probes ((first :: rest).map (Probe.of documents))).score? d =
      some score ↔ (∀ clause ∈ first :: rest, clause.Matches d) ∧
        sumShares ((first :: rest).map fun clause => (Probe.of documents clause).worthShare d) =
          score := by
    intro first rest
    refine Option.map_eq_some_iff.trans ⟨?_, ?_⟩
    · rintro ⟨shares, hshares, hscore⟩
      obtain ⟨hall, rfl⟩ := (mapM_share?_eq_some_iff documents (first :: rest) d shares).mp hshares
      exact ⟨hall, hscore⟩
    · rintro ⟨hall, hscore⟩
      exact ⟨_, (mapM_share?_eq_some_iff documents (first :: rest) d _).mpr ⟨hall, rfl⟩, hscore⟩
  -- A single clause is run as a conjunction of one, and a conjunction of none finds nothing.
  cases plan with
  | everything => simp [Matcher.of, Matcher.score?, Plan.Matches, worth]
  | single clause =>
    refine (hprobes clause []).trans ?_
    rw [List.forall_mem_singleton]
    rfl
  | conjunction clauses =>
    cases clauses with
    | nil => simp [Matcher.of, Matcher.score?, Plan.Matches]
    | cons first rest =>
      refine (hprobes first rest).trans ?_
      simp [Plan.Matches, worth, Plan.clauses]

end Gazetteer.Index

namespace Gazetteer

/-- A plan has the clauses that it was made of, also where it is none or a single one. Plans are
told apart by form when they are run, and not by what they ask for. -/
theorem clauses_ofClauses (clauses : List Clause) : (Plan.ofClauses clauses).clauses = clauses := by
  match clauses with
  | [] => rfl
  | [_] => rfl
  | _ :: _ :: _ => rfl

/-- Only a plan without clauses matches everything by its form. -/
theorem ofClauses_eq_everything_iff {clauses : List Clause} :
    Plan.ofClauses clauses = .everything ↔ clauses = [] := by
  match clauses with
  | [] => exact iff_of_true rfl rfl
  | [_] => exact iff_of_false nofun (List.cons_ne_nil _ _)
  | _ :: _ :: _ => exact iff_of_false nofun (List.cons_ne_nil _ _)

/-- **A plan of clauses is matched where each of them is**, however many there are: none, one or a
conjunction. -/
theorem Plan.matches_ofClauses_iff {clauses : List Clause} {d : Index.Document} :
    (Plan.ofClauses clauses).Matches d ↔ ∀ clause ∈ clauses, clause.Matches d := by
  match clauses with
  | [] => simp [ofClauses, Matches]
  | [clause] => simp [ofClauses, Matches]
  | first :: second :: rest => simp [ofClauses, Matches]

end Gazetteer

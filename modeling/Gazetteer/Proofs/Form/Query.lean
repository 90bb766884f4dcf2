import Gazetteer.Form.Query
import Gazetteer.Proofs.Form.Fields

/-!
# What the JSON forms of queries give back

Choices without contents are read by their names, the others by the one name of an object and what
it holds. A plan names its type beside its contents, and reading takes an empty object in them for
null; in a clause as it is written there is none to be taken so (`Json.bareChoices_clause`). The
only numbers with a point are the weights of clauses, so that plans whose weights are finite are
restored (`restored_plan`), and queries with them.
-/

namespace Gazetteer

/-! ## Choices -/

/-- A field to search in is restored by its name. So are the other choices without contents, which
are all read by one table of names each. -/
theorem restored_searchField (f : Field) : Restored f := by
  cases f <;> rfl

theorem restored_sortField (f : SortField) : Restored f := by
  cases f <;> rfl

theorem restored_direction (d : Direction) : Restored d := by
  cases d <;> rfl

theorem restored_strategy (s : Strategy) : Restored s := by
  cases s <;> rfl

/-- A tolerance is restored: it is a name, or an object with the number of edits. -/
theorem restored_tolerance (t : Tolerance) : Restored t := by
  cases t with
  | auto => rfl
  | edits count => exact congrArg (Option.map Tolerance.edits) (restored_word count)

/-- A mode is restored, with the tolerance that it may have. The three modes are told apart by name,
as the one with contents is an object with that name. -/
theorem restored_mode (m : MatchMode) : Restored m := by
  cases m with
  | leading => rfl
  | exact => rfl
  | near tolerance => exact congrArg (Option.map MatchMode.near) (restored_tolerance tolerance)

/-! ## Sorts and slots -/

theorem restored_sortKey (k : SortKey) : Restored k := by
  refine restored_record rfl (fun _ => rfl) (by simp) ?_
  simp [restored_sortField, restored_direction]

theorem restored_sortSpec (sort : SortSpec) : Restored sort :=
  restored_list fun key _ => restored_sortKey key

/-- Slots are restored: each of them is a text, and one that is empty is written too. -/
theorem restored_slots (s : Slots) : Restored s := by
  refine restored_record rfl (fun _ => rfl) (by simp) ?_
  simp [restored_text]

/-! ## Plans -/

/-- A clause is restored if its weight is finite. A weight that is not is written as null, and null
is not read as a weight. -/
theorem restored_clause {c : Clause} (h : c.boost.isFinite = true) : Restored c := by
  refine restored_record rfl (fun _ => rfl) (by simp) ?_
  simp [restored_searchField, restored_mode, restored_single h, restored_text]

namespace Json

/-- A mode is written without empty objects: the tolerance in it is a text, or an object with a
number. -/
theorem bareChoices_mode (m : MatchMode) : bareChoices (toJson m) = toJson m := by
  cases m with
  | leading => rfl
  | exact => rfl
  | near tolerance => cases tolerance <;> rfl

theorem bareChoices_single (x : Float32) : bareChoices (toJson x) = toJson x := by
  change bareChoices (double (Number.widen x)) = double (Number.widen x)
  rw [double]
  split <;> rfl

/-- **No choice of a clause is written with an empty object.** Reading the contents of a plan takes
an empty object for null where a choice is read, and there is none here to be taken so. -/
theorem bareChoices_clause (c : Clause) : bareChoices (toJson c) = toJson c := by
  change object [("field", _), ("mode", bareChoices (toJson c.mode)),
    ("boost", bareChoices (toJson c.boost)), ("value", _)] = toJson c
  rw [bareChoices_mode, bareChoices_single]
  rfl

theorem bareChoices_clauses (clauses : List Clause) :
    bareChoices (toJson clauses) = toJson clauses := by
  change array (bareItems (clauses.map toJson)) = array (clauses.map toJson)
  congr 1
  induction clauses with
  | nil => rfl
  | cons clause rest ih => rw [List.map_cons, bareItems, bareChoices_clause, ih]

end Json

/-- Every weight of a plan is a finite number. -/
def Plan.IsFinite (plan : Plan) : Prop :=
  ∀ clause ∈ plan.clauses, clause.boost.isFinite = true

/-- **A plan of finite weights is restored**, whether it asks for everything or for clauses. -/
theorem restored_plan {plan : Plan} (h : plan.IsFinite) : Restored plan := by
  cases plan with
  | everything => rfl
  | single clause =>
    refine restored_record rfl (fun _ => rfl) (by simp) ?_
    have hclause := restored_clause (h clause (List.mem_singleton_self clause))
    change (Json.required (some (Json.bareChoices (toJson clause)))).map Plan.single = _
    rw [Json.bareChoices_clause, Json.required_toJson hclause, Option.map_some]
  | conjunction clauses =>
    refine restored_record rfl (fun _ => rfl) (by simp) ?_
    have hclauses : Restored clauses :=
      restored_list fun clause hclause => restored_clause (h clause hclause)
    change (Json.required (some (Json.bareChoices (toJson clauses)))).map Plan.conjunction = _
    rw [Json.bareChoices_clauses, Json.required_toJson hclauses, Option.map_some]

/-- **A query is restored with its plan**, its strategy and its sort. -/
theorem restored_planned {query : PlannedQuery} (h : query.plan.IsFinite) : Restored query := by
  refine restored_record rfl (fun _ => rfl) (by simp) ?_
  simp [restored_strategy, restored_plan h, restored_sortSpec]

end Gazetteer

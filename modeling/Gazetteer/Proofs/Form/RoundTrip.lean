import Gazetteer.Form.Hit
import Gazetteer.Form.Settings
import Gazetteer.Proofs.Form.Query

/-!
# Writing and reading

What is written in JSON is read back, and what has been read once is no longer changed by being
written and read again, whatever form it was read from: **every JSON form round-trips** where its
numbers with a point are finite (`forms_roundTrip`). For all others there is no JSON number, and
null in their place is read back only where something may be nothing. Fields that are left out count
as their defaults.
-/

namespace Gazetteer

/-! ## Addresses -/

/-- Every coordinate that is there is a finite number. -/
def Address.IsFinite (a : Address) : Prop :=
  (∀ x ∈ a.latitude, x.isFinite = true) ∧ ∀ x ∈ a.longitude, x.isFinite = true

/-- A coordinate that is finite, or missing, is restored. A coordinate that is not finite would come
back as a missing one. -/
theorem restored_coordinate {o : Option Float} (h : ∀ x ∈ o, x.isFinite = true) : Restored o :=
  restored_option fun x hx =>
    ⟨restored_double (h x hx), by simp [toJson, Json.double_of_finite (h x hx)]⟩

/-- An address of finite coordinates is restored, field by field. -/
theorem restored_address {a : Address} (h : a.IsFinite) : Restored a := by
  refine restored_record rfl (fun _ => rfl) (by simp) ?_
  simp [restored_text, restored_coordinate h.1, restored_coordinate h.2]

/-- The fields of an address, in their order. -/
def Address.fieldNames : List String :=
  ["id", "building_name", "flat_type", "flat_number", "number_first", "number_last", "street_name",
    "street_type", "locality_name", "state", "postcode", "latitude", "longitude"]

/-- What an address may leave out: every text but its id and its street name, and the
coordinates. -/
def Address.defaults : List (String × Json) :=
  ["building_name", "flat_type", "flat_number", "number_first", "number_last", "street_type",
    "locality_name", "state", "postcode"].map (·, .string "") ++
  ["latitude", "longitude"].map (·, .null)

/-- An address is read as if the texts and coordinates that it leaves out were there. An array may
leave out those at its end, behind the street name. -/
theorem ofJson?_filled_address (j : Json) :
    (ofJson? (j.filled Address.fieldNames Address.defaults) : Option Address) = ofJson? j := by
  have htext (field : Option Json) : Json.orElse "" (field.or (some (.string ""))) =
      Json.orElse "" field :=
    Json.orElse_or rfl field
  have hcoordinate (field : Option Json) :
      (Json.orElse none (field.or (some .null)) : Option (Option Float)) = Json.orElse none field :=
    Json.orElse_or rfl field
  refine ofJson?_filled_of_forall
    (by simp [Address.fieldNames]) (fun _ => rfl) (fun byPlace find => ?_) j
  simp only [Address.fieldNames, Address.defaults, Json.orDefault, Json.member?,
    List.map_cons, List.map_nil, List.cons_append, List.nil_append, List.find?, String.reduceBEq,
    Option.map_none, Option.map_some, Option.or_none, htext, hcoordinate]

/-! ## Hits -/

/-- The score of a hit and every coordinate of its record are finite numbers. -/
def Hit.IsFinite (hit : Hit) : Prop :=
  hit.score.isFinite = true ∧ ∀ record ∈ hit.record, record.IsFinite

theorem restored_origin (o : Origin) : Restored o := by
  cases o <;> rfl

/-- A hit is restored if its score and its record are finite, the record being an address or
nothing. -/
theorem restored_hit {hit : Hit} (h : hit.IsFinite) : Restored hit := by
  have hid : Restored hit.id := restored_option fun id _ => ⟨restored_text id, Json.noConfusion⟩
  have hrecord : Restored hit.record :=
    restored_option fun record hmem => ⟨restored_address (h.2 record hmem), Json.noConfusion⟩
  refine restored_record rfl (fun _ => rfl) (by simp) ?_
  simp [hid, hrecord, restored_text, restored_single h.1, restored_origin]

/-- The fields of a hit, in their order. -/
def Hit.fieldNames : List String :=
  ["id", "address", "record", "score", "origin"]

/-- What a hit may leave out: its id and its record. -/
def Hit.defaults : List (String × Json) :=
  [("id", .null), ("record", .null)]

/-- A hit is read as if its id and its record were there. Fields behind these are required, so
nothing can be left out of an array. -/
theorem ofJson?_filled_hit (j : Json) :
    (ofJson? (j.filled Hit.fieldNames Hit.defaults) : Option Hit) = ofJson? j := by
  refine ofJson?_filled_of_last (by simp [Hit.fieldNames]) (fun _ => rfl) (fun find => ?_) rfl rfl j
  simp only [Hit.fieldNames, Hit.defaults, Json.orDefault, Json.member?, List.map_cons,
    List.map_nil, List.find?, String.reduceBEq, Option.map_none, Option.map_some, Option.or_none,
    Json.optional_or_null]

/-! ## Settings -/

/-- Settings are restored: they are texts, numbers without a point, and a list of texts. -/
theorem restored_settings (s : Settings) : Restored s := by
  have hwords : Restored s.extraStreetTypes := restored_list fun word _ => restored_text word
  refine restored_record rfl (fun _ => rfl) (by simp) ?_
  simp [restored_text, restored_word, hwords]

/-- The settings, in their order. -/
def Settings.fieldNames : List String :=
  ["index_dir", "writer_heap_bytes", "default_size", "default_suggest_size",
    "sort_window", "timeout_ms", "max_retries", "retry_base_delay_ms", "extra_street_types"]

/-- What settings may leave out: every setting, for its standard value. -/
def Settings.defaults : List (String × Json) :=
  [("index_dir", toJson standard.indexFolder), ("writer_heap_bytes", toJson standard.writerMemory),
    ("default_size", toJson standard.defaultSize),
    ("default_suggest_size", toJson standard.defaultSuggestSize),
    ("sort_window", toJson standard.sortWindow), ("timeout_ms", toJson standard.timeoutMillis),
    ("max_retries", toJson standard.maxRetries),
    ("retry_base_delay_ms", toJson standard.retryBaseMillis),
    ("extra_street_types", toJson standard.extraStreetTypes)]

/-- Settings are read as if those that are left out were there with their standard values, so that
an empty object is the standard settings. -/
theorem ofJson?_filled_settings (j : Json) :
    (ofJson? (j.filled Settings.fieldNames Settings.defaults) : Option Settings) = ofJson? j := by
  have hwords : Restored Settings.standard.extraStreetTypes := rfl
  refine ofJson?_filled_of_forall
    (by simp [Settings.fieldNames]) (fun _ => rfl) (fun byPlace find => ?_) j
  simp only [Settings.fieldNames, Settings.defaults, Json.orDefault, Json.member?,
    List.map_cons, List.map_nil, List.find?, String.reduceBEq, Option.map_some,
    Json.orElse_or (restored_text _), Json.orElse_or (restored_word _), Json.orElse_or hwords]

/-! ## All forms -/

/-- **A form round-trips** for values with finite numbers, and has defaults for fields that are left
out. -/
structure RoundTrips (α : Type) [JsonForm α] (finite : α → Prop) (names : List String)
    (defaults : List (String × Json)) : Prop where
  /-- What is written is read back. -/
  read_written : ∀ a, finite a → ofJson? (toJson a) = some a
  /-- Reading, writing and reading again gives what reading gives. -/
  reread : ∀ j : Json, (∀ a ∈ (ofJson? j : Option α), finite a) →
    (ofJson? j : Option α).bind (fun a : α => (ofJson? (toJson a) : Option α)) = ofJson? j
  /-- What is left out is read as its default. -/
  read_filled : ∀ j : Json, (ofJson? (j.filled names defaults) : Option α) = ofJson? j

/-- A form round-trips if its values are restored and its defaults count as said. Reading again
needs no argument of its own: what has been read is a value, and it is restored. -/
theorem RoundTrips.of_restored {α : Type} [JsonForm α] {finite : α → Prop} {names : List String}
    {defaults : List (String × Json)} (h : ∀ a : α, finite a → Restored a)
    (hfilled : ∀ j : Json, (ofJson? (j.filled names defaults) : Option α) = ofJson? j) :
    RoundTrips α finite names defaults where
  read_written := h
  reread j hj := by
    cases hread : (ofJson? j : Option α) with
    | none => rfl
    | some a => exact h a (hj a hread)
  read_filled := hfilled

/-- So does a form in which nothing may be left out. -/
theorem RoundTrips.of_restored_of_required {α : Type} [JsonForm α] {finite : α → Prop}
    (h : ∀ a : α, finite a → Restored a) : RoundTrips α finite [] [] :=
  .of_restored h fun j => congrArg ofJson? (Json.filled_nil [] j)

/-- **Every JSON form round-trips**: what is written of finite numbers is read back, what has been
read is no longer changed by writing and reading it, and what may be left out counts as its default.

Each type has its own condition of finite numbers, and most have none. Reading is said of every JSON
value, so that objects with their fields in another order are included, and records that are written
as arrays. -/
theorem forms_roundTrip :
    RoundTrips PlannedQuery (·.plan.IsFinite) [] [] ∧
    RoundTrips Plan Plan.IsFinite [] [] ∧
    RoundTrips Clause (·.boost.isFinite = true) [] [] ∧
    RoundTrips MatchMode (fun _ => True) [] [] ∧
    RoundTrips Tolerance (fun _ => True) [] [] ∧
    RoundTrips SortSpec (fun _ => True) [] [] ∧
    RoundTrips Slots (fun _ => True) [] [] ∧
    RoundTrips Address Address.IsFinite Address.fieldNames Address.defaults ∧
    RoundTrips Hit Hit.IsFinite Hit.fieldNames Hit.defaults ∧
    RoundTrips Settings (fun _ => True) Settings.fieldNames Settings.defaults :=
  ⟨.of_restored_of_required fun _ => restored_planned,
    .of_restored_of_required fun _ => restored_plan,
    .of_restored_of_required fun _ => restored_clause,
    .of_restored_of_required fun mode _ => restored_mode mode,
    .of_restored_of_required fun tolerance _ => restored_tolerance tolerance,
    .of_restored_of_required fun sort _ => restored_sortSpec sort,
    .of_restored_of_required fun slots _ => restored_slots slots,
    .of_restored (fun _ => restored_address) ofJson?_filled_address,
    .of_restored (fun _ => restored_hit) ofJson?_filled_hit,
    .of_restored (fun settings _ => restored_settings settings) ofJson?_filled_settings⟩

/-- A query of two clauses, one with more edits than count, and a finite weight each. -/
theorem planned_roundTrip_near :
    ofJson? (toJson (⟨.composite, .conjunction [⟨.streetName, .near (.edits 255), 3, "queen"⟩,
      .leading .suburb ""],
        [⟨.streetNumber, .descending⟩]⟩ : PlannedQuery)) =
      some (⟨.composite, .conjunction [⟨.streetName, .near (.edits 255), 3, "queen"⟩,
        .leading .suburb ""],
        [⟨.streetNumber, .descending⟩]⟩ : PlannedQuery) := by
  refine forms_roundTrip.1.read_written _ fun clause hclause => ?_
  rcases List.mem_pair.mp hclause with rfl | rfl
  · rfl
  · rfl

end Gazetteer

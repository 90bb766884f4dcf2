import Gazetteer.Form
import Gazetteer.Proofs.Number.Widening

/-!
# What a JSON form gives back

A value is restored if it is read back from what is written for it (`Restored`). Texts and words of
any width are; numbers with a point are where they are finite, since what is not is written as null;
and a list is if its items are. A record is read by the names of its fields from an object and by
their places from an array, so that it is restored if its fields are (`restored_record`), and a
field that is left out may as well be there with its default (`ofJson?_filled`).
-/

namespace Gazetteer

variable {α : Type} [JsonForm α]

/-- **A value is read back from its JSON form.** -/
def Restored (a : α) : Prop :=
  ofJson? (toJson a) = some a

theorem restored_text (s : String) : Restored s := rfl

/-! ## Numbers -/

theorem Json.naturalUpTo?_natural {bound n : Nat} (h : n ≤ bound) :
    (Json.natural n).naturalUpTo? bound = some n := by
  rw [natural, naturalUpTo?, if_pos ⟨Int.natCast_nonneg n, Int.ofNat_le.mpr h⟩, Int.toNat_natCast]

/-- **Words of any width are restored**: a width says up to where its numbers go, and none is
beyond. -/
theorem restored_word {β : Type} [FixedWidth β] (n : β) : Restored n := by
  have hread : (toJson n).naturalUpTo? (FixedWidth.greatest β) = some (FixedWidth.toNat n) :=
    Json.naturalUpTo?_natural (FixedWidth.toNat_le n)
  simp [Restored, ofJson?, hread, FixedWidth.ofNat_toNat]

/-- The test for finite numbers on bits is the one of the logic. Reading and writing ask the
first. -/
theorem isFiniteDouble_iff (x : Float) : Number.isFiniteDouble x = true ↔ x.isFinite = true := by
  rw [Number.isFinite_iff, Number.isFiniteDouble]
  cases Number.readDouble x <;> simp

theorem Json.double_of_finite {x : Float} (h : x.isFinite = true) :
    Json.double x = .number (.real x) :=
  if_pos ((isFiniteDouble_iff x).mpr h)

/-- A finite double is restored. One that is not has no JSON number and is written as null. -/
theorem restored_double {x : Float} (h : x.isFinite = true) : Restored x := by
  rw [Restored, show toJson x = _ from Json.double_of_finite h]
  rfl

theorem Json.single_of_finite {x : Float32} (h : x.isFinite = true) :
    Json.single x = .number (.real (Number.widen x)) :=
  double_of_finite (Number.isFinite_widen h)

/-- A finite single is restored: it is narrowed when it is read, and that gives back what was
widened. -/
theorem restored_single {x : Float32} (h : x.isFinite = true) : Restored x := by
  rw [Restored, show toJson x = _ from Json.single_of_finite h]
  exact congrArg some (Number.narrow_widen h)

/-! ## Options and lists -/

/-- Something that is there is restored unless it is written as what stands for nothing. An option
of options is not, and there is none among the forms. -/
theorem restored_option {o : Option α} (h : ∀ a ∈ o, Restored a ∧ toJson a ≠ .null) :
    Restored o := by
  cases o with
  | none => rfl
  | some a =>
    obtain ⟨ha, hnull⟩ := h a rfl
    have hread : (ofJson? (toJson a) : Option (Option α)) = (ofJson? (toJson a)).map some := by
      revert hnull
      cases toJson a <;> simp [ofJson?]
    exact hread.trans (congrArg (Option.map some) ha)

/-- A list is restored if its items are, by induction on the list. -/
theorem restored_list {xs : List α} (h : ∀ a ∈ xs, Restored a) : Restored xs := by
  change (xs.map toJson).mapM ofJson? = some xs
  induction xs with
  | nil => rfl
  | cons a xs ih =>
    obtain ⟨ha, hxs⟩ := List.forall_mem_cons.mp h
    rw [List.map_cons, List.mapM_cons, ih hxs, show ofJson? (toJson a) = some a from ha]
    rfl

/-! ## Records -/

namespace Json

/-- Where each name stands once, it finds its own member, and not an earlier one. -/
theorem find?_of_nodup {members : List (String × Json)} (h : (members.map (·.1)).Nodup)
    {member : String × Json}
    (hmem : member ∈ members) : members.find? (·.1 == member.1) = some member := by
  obtain ⟨before, after, rfl⟩ := List.append_of_mem hmem
  rw [List.map_append, List.nodup_append] at h
  have hbefore : before.find? (·.1 == member.1) = none := by
    rw [List.find?_eq_none]
    intro other hother heq
    exact h.2.2 other.1 (List.mem_map_of_mem hother) member.1 (by simp) (beq_iff_eq.mp heq)
  rw [List.find?_append, hbefore, Option.none_or, List.find?_cons_of_pos]
  exact beq_self_eq_true member.1

/-- **The fields of what is written are found again**, each at its name. No name is repeated in what
is written, so that reading does not refuse it. -/
theorem fields?_written {members : List (String × Json)} (h : (members.map (·.1)).Nodup) :
    (object members).fields? (members.map (·.1)) = some (false, members.map (some ·.2)) := by
  rw [fields?, List.map_map]
  refine congrArg (fun found => some (false, found)) (List.map_congr_left fun member hmem => ?_)
  rw [Function.comp_apply, find?_of_nodup h hmem, Option.map_some]

end Json

variable {names : List String} {read : Bool × List (Option Json) → Option α}

/-- **A record is restored** if reading gives it back for the fields that are written. For a record
with restored fields this is a computation by the lemmas below, which read one field each. -/
theorem restored_record {a : α} {members : List (String × Json)}
    (hwritten : toJson a = .object members)
    (hread : ∀ j : Json, ofJson? j = (j.fields? (members.map (·.1))).bind read)
    (hnodup : (members.map (·.1)).Nodup) (h : read (false, members.map (some ·.2)) = some a) :
    Restored a := by
  rw [Restored, hwritten, hread, Json.fields?_written hnodup, Option.bind_some, h]

namespace Json

/-- A field that is required is read from what was written for it. This and the next two read one
field each, so that simp reads a whole record. -/
@[simp]
theorem required_toJson {a : α} (h : Restored a) : required (some (toJson a)) = some a := h

@[simp]
theorem orElse_toJson {a : α} (value : α) (h : Restored a) :
    orElse value (some (toJson a)) = some a := h

@[simp]
theorem optional_toJson {byPlace : Bool} {o : Option α} (h : Restored o) :
    optional byPlace (some (toJson o)) = some o := h

/-! ## What is left out -/

/-- The members of an object with those that are left out, where they have a default. -/
def filledMembers (defaults members : List (String × Json)) : List (String × Json) :=
  members ++ defaults.filter fun entry => !members.any (·.1 == entry.1)

/-- The items of an array with those of the fields behind them, if these all have a default. -/
def filledItems (names : List String) (defaults : List (String × Json))
    (items : List Json) : List Json :=
  items ++ ((names.drop items.length).mapM (object defaults).member?).getD []

/-- **A record with the fields that it leaves out**, where they have a default: those that are not
among the members of an object, and those behind the last item of an array. -/
def filled (names : List String) (defaults : List (String × Json)) : Json → Json
  | .object members => .object (filledMembers defaults members)
  | .array items => .array (filledItems names defaults items)
  | j => j

/-- What is found by a name, or its default. -/
def orDefault (defaults : List (String × Json)) (found : String → Option Json) (name : String) :
    Option Json :=
  (found name).or ((object defaults).member? name)

/-- **A member that is left out is found as its default**, and one that is there as itself. -/
theorem member?_filled (defaults members : List (String × Json)) (name : String) :
    (object (filledMembers defaults members)).member? name =
      ((object members).member? name).or ((object defaults).member? name) := by
  simp only [member?, filledMembers, List.find?_append, List.find?_filter]
  cases hfound : members.find? (·.1 == name) with
  | some member => simp
  | none =>
    -- what a name finds is a member of that name, which then stands nowhere among the members
    have hgone : ∀ entry : String × Json, (entry.1 == name) = true →
        members.any (·.1 == entry.1) = false := by
      intro entry hentry
      rw [beq_iff_eq.mp hentry, ← Bool.not_eq_true, List.any_eq_true]
      rintro ⟨member, hmem, hname⟩
      exact List.find?_eq_none.mp hfound member hmem hname
    have hsame : (fun entry : String × Json =>
          decide ((!members.any (·.1 == entry.1)) = true ∧ (entry.1 == name) = true)) =
        fun entry => entry.1 == name := by
      funext entry
      cases hentry : entry.1 == name with
      | false => simp
      | true => simp [hgone entry hentry]
    rw [hsame, Option.none_or, Option.map_none, Option.none_or]

/-- The fields of an object with its defaults are those found, or their defaults. Members with other
names are left alone and not looked at. -/
theorem fields?_filledMembers (names : List String) (defaults members : List (String × Json)) :
    (object (filledMembers defaults members)).fields? names =
      some (false, names.map (orDefault defaults (object members).member?)) :=
  congrArg (fun found : String → Option Json => some (false, names.map found))
    (funext (member?_filled defaults members))

/-- Items that are there stand for themselves, and the fields behind them for their defaults.
Reading pads the items with nothing up to the number of fields. -/
theorem zipWith_or_items (items : List Json) (fallbacks : List (Option Json))
    (h : items.length ≤ fallbacks.length) :
    (items.map some ++ List.replicate (fallbacks.length - items.length) none).zipWith
      Option.or fallbacks =
      items.map some ++ fallbacks.drop items.length := by
  induction items generalizing fallbacks with
  | nil =>
    have hnone : (List.replicate fallbacks.length none).zipWith Option.or fallbacks =
        fallbacks := by
      induction fallbacks with
      | nil => rfl
      | cons fallback rest ih => simp [List.replicate_succ, ih (Nat.zero_le _)]
    simpa using hnone
  | cons item items ih =>
    cases fallbacks with
    | nil => exact absurd h (Nat.not_succ_le_zero _)
    | cons fallback rest => simp [ih rest (Nat.le_of_succ_le_succ h)]

/-- Where all names are found, mapping finds the same, each under its name. -/
theorem map_of_mapM {β : Type} {f : String → Option β} {names : List String} {found : List β}
    (h : names.mapM f = some found) : names.map f = found.map some := by
  induction names generalizing found with
  | nil => cases h; rfl
  | cons name names ih =>
    rw [List.mapM_cons] at h
    obtain ⟨first, hfirst, h⟩ := Option.bind_eq_some_iff.mp h
    obtain ⟨rest, hrest, h⟩ := Option.bind_eq_some_iff.mp h
    cases h
    rw [List.map_cons, List.map_cons, hfirst, ih hrest]

/-- What is found of an array has the names of its fields, if each of these stands once. Reading by
places becomes reading by names with this, so that one account of defaults does for both. -/
theorem exists_map_eq {names : List String} (hnodup : names.Nodup) {found : List (Option Json)}
    (hlength : found.length = names.length) :
    ∃ find : String → Option Json, names.map find = found := by
  induction names generalizing found with
  | nil => exact ⟨fun _ => none, (List.length_eq_zero_iff.mp hlength).symm⟩
  | cons name names ih =>
    obtain ⟨hfirst, hrest⟩ := List.nodup_cons.mp hnodup
    cases found with
    | nil => cases hlength
    | cons first found =>
      obtain ⟨find, hfind⟩ := ih hrest (Nat.succ.inj hlength)
      refine ⟨fun other => if other = name then first else find other, ?_⟩
      rw [List.map_cons, if_pos rfl, ← hfind]
      refine congrArg _ (List.map_congr_left fun other hother => if_neg ?_)
      rintro rfl
      exact hfirst hother

/-- **Items that are left out are found as their defaults**, if all of them have one. If one has
none, nothing is filled in, and reading fails or not as it did. -/
theorem fields?_filledItems {names : List String} {defaults : List (String × Json)}
    {items extra : List Json} {find : String → Option Json} (hle : items.length ≤ names.length)
    (hextra : (names.drop items.length).mapM (object defaults).member? = some extra)
    (hfind : names.map find = items.map some ++ List.replicate (names.length - items.length) none) :
    (array (filledItems names defaults items)).fields? names =
      some (true, names.map (orDefault defaults find)) := by
  have hmap := map_of_mapM hextra
  have hlength : (items ++ extra).length = names.length := by
    have hcount := congrArg List.length hmap
    rw [List.length_map, List.length_drop, List.length_map] at hcount
    rw [List.length_append, ← hcount]
    omega
  have hfound := zipWith_or_items items (names.map (object defaults).member?) (by simpa using hle)
  rw [List.length_map, ← List.map_drop, hmap, ← List.map_append, ← hfind, List.zipWith_map,
    List.zipWith_self] at hfound
  rw [filledItems, hextra, Option.getD_some, fields?, if_pos hlength.le, hlength, Nat.sub_self,
    List.replicate_zero, List.append_nil, ← hfound]
  rfl

end Json

/-- **A record is read as if its defaults were there**, if that is so for whatever is found of its
fields. Objects and arrays are told apart, since a default may count in only one of them. -/
theorem ofJson?_filled {defaults : List (String × Json)} (hnodup : names.Nodup)
    (hread : ∀ j : Json, ofJson? j = (j.fields? names).bind read)
    (hname : ∀ find, read (false, names.map (Json.orDefault defaults find)) = read
      (false, names.map find))
    (hplace : ∀ (items : List Json) (find : String → Option Json),
      names.map find = items.map some ++ List.replicate (names.length - items.length) none →
      (∃ extra, (names.drop items.length).mapM (Json.object defaults).member? = some extra) →
        read (true, names.map (Json.orDefault defaults find)) = read (true, names.map find))
    (j : Json) : (ofJson? (j.filled names defaults) : Option α) = ofJson? j := by
  cases j with
  | object members =>
    rw [Json.filled, hread, hread, Json.fields?_filledMembers, Option.bind_some, hname]
    rfl
  | array items =>
    rw [Json.filled]
    cases hextra : (names.drop items.length).mapM (Json.object defaults).member? with
    | none => rw [Json.filledItems, hextra, Option.getD_none, List.append_nil]
    | some extra =>
      -- An array with more items than there are fields is refused, and nothing is filled in behind
      -- it.
      by_cases hle : items.length ≤ names.length
      · have hlength :
          (items.map some ++ List.replicate (names.length - items.length) none).length =
            names.length := by
          simp [hle]
        obtain ⟨find, hfind⟩ := Json.exists_map_eq hnodup hlength
        rw [hread, hread, Json.fields?_filledItems hle hextra hfind, Option.bind_some,
          Json.fields?, if_pos hle, Option.bind_some, ← hfind]
        exact hplace items find hfind ⟨extra, hextra⟩
      · rw [Json.filledItems, List.drop_eq_nil_of_le (by omega), List.mapM_nil]
        exact congrArg (fun items => ofJson? (Json.array items)) (List.append_nil items)
  | _ => rfl

/-- Where the last field has no default, nothing is filled in behind the items of an array, and only
objects are left to look at. -/
theorem ofJson?_filled_of_last {defaults : List (String × Json)} {last : String}
    (hnodup : names.Nodup) (hread : ∀ j : Json, ofJson? j = (j.fields? names).bind read)
    (hname : ∀ find, read (false, names.map (Json.orDefault defaults find)) = read
      (false, names.map find))
    (hlast : names.getLast? = some last)
    (hnone : (Json.object defaults).member? last = none) (j : Json) :
    (ofJson? (j.filled names defaults) : Option α) = ofJson? j := by
  refine ofJson?_filled hnodup hread hname (fun items find hfind hdefaults => ?_) j
  obtain ⟨extra, hextra⟩ := hdefaults
  have hfull : names.length ≤ items.length := by
    by_contra hlt
    have hmem : last ∈ names.drop items.length := by
      refine List.mem_of_getLast? ?_
      rw [List.getLast?_drop, if_neg hlt, hlast]
    have hsome : (Json.object defaults).member? last ∈ extra.map some :=
      Json.map_of_mapM hextra ▸ List.mem_map_of_mem hmem
    rw [hnone] at hsome
    simp at hsome
  rw [Nat.sub_eq_zero_of_le hfull, List.replicate_zero, List.append_nil] at hfind
  -- every field is found, so that no default is asked for
  have hsame : names.map (Json.orDefault defaults find) = names.map find := by
    refine List.map_congr_left fun name hname => ?_
    have hfound : find name ∈ items.map some := hfind ▸ List.mem_map_of_mem hname
    obtain ⟨item, -, hitem⟩ := List.mem_map.mp hfound
    rw [Json.orDefault, ← hitem, Option.some_or]
  rw [hsame]

/-- A record whose defaults do not depend on whether it is read from an object or from an array is
read as if they were there. -/
theorem ofJson?_filled_of_forall {defaults : List (String × Json)} (hnodup : names.Nodup)
    (hread : ∀ j : Json, ofJson? j = (j.fields? names).bind read)
    (h : ∀ byPlace find,
      read (byPlace, names.map (Json.orDefault defaults find)) = read (byPlace, names.map find))
    (j : Json) : (ofJson? (j.filled names defaults) : Option α) = ofJson? j :=
  ofJson?_filled hnodup hread (h false) (fun _ find _ _ => h true find) j

/-- Without defaults nothing is filled in, and this is what forms say in which every field is
required. -/
theorem Json.filled_nil (names : List String) (j : Json) : j.filled names [] = j := by
  cases j with
  | object members => exact congrArg Json.object (List.append_nil members)
  | array items =>
    refine congrArg Json.array ?_
    rw [filledItems]
    cases names.drop items.length with
    | nil => exact List.append_nil items
    | cons name rest =>
      rw [List.mapM_cons]
      exact List.append_nil items
  | _ => rfl

namespace Json

/-- A field with a value of its own may as well be there with it, however the default is written. -/
theorem orElse_or {value : α} {j : Json} (h : ofJson? j = some value) (field : Option Json) :
    orElse value (field.or (some j)) = orElse value field := by
  cases field with
  | none => exact h
  | some _ => rfl

/-- A field that may be missing may as well be null. -/
theorem optional_or_null (field : Option Json) :
    (optional false (field.or (some null)) : Option (Option α)) = optional false field := by
  cases field <;> rfl

end Json

end Gazetteer

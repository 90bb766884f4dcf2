import Gazetteer.Index.Document
import Gazetteer.Proofs.Extract.Parse
import Gazetteer.Proofs.Number.Value
import Gazetteer.Proofs.Text.Trim

/-!
# Which rows give an address

A row is usable if its id and its street name are more than blanks and its coordinates, where it has
any, are numbers on the globe; infinities and what is no number are not
(`Bounds.withinDegrees_iff`). Working through rows takes **the addresses of the usable rows, each
once and in order**, and counts all others (`parseRows_eq`). So a row that is malformed or not
usable may stand anywhere among the rows, and only its own count tells (`parseRows_isolates`).
-/

namespace Gazetteer

open Number Text

/-- A text that is trimmed is not empty exactly if there is more than blanks in it. This is how the
check of a row finds a missing id or street name. -/
theorem Text.trim_ne_empty_iff (s : String) : trim s ≠ "" ↔ ¬ Blanks s.toList := by
  rw [← trimChars_eq_nil_iff, ne_eq, trim, String.ofList_eq_empty_iff]

namespace Extract

/-! ## Coordinates -/

/-- **A double bounds coordinates by so many degrees**: they are its value, and their opposite is
that of its opposite. -/
structure Bounds (bound : Float) (degrees : ℚ) : Prop where
  greatest : (readDouble bound).value? = some degrees
  least : (readDouble (-bound)).value? = some (-degrees)

/-- A bound is read off its units, which it and its opposite have in common. Both bounds of
coordinates are shown to be bounds with this. -/
theorem bounds_of_unpack {bound : Float} {degrees : ℚ} (units : Nat) (exponent : Int)
    {hpos : 0 < units} (hgreatest : bound.toModel.unpack = .finite .positive units exponent hpos)
    (hleast : (-bound).toModel.unpack = .finite .negative units exponent hpos)
    (hdegrees : (units * 2 ^ exponent : ℚ) = degrees) : Bounds bound degrees where
  greatest := by rw [value?_readDouble, hgreatest, unpackedValue?, hdegrees]
  least := by rw [value?_readDouble, hleast, unpackedValue?, hdegrees]

namespace Bounds

variable {bound : Float} {degrees : ℚ}

/-- **A coordinate lies within its bound if it has a value and its value does.** What is compared
with the bound on both sides has a value, since infinities lie outside of it and what is no number
lies nowhere. -/
theorem withinDegrees_iff (h : Bounds bound degrees) (x : Float) :
    withinDegrees bound x = true ↔
      ∃ v, (readDouble x).value? = some v ∧ -degrees ≤ v ∧ v ≤ degrees := by
  rw [withinDegrees, Bool.and_eq_true, decide_eq_true_iff, decide_eq_true_iff]
  constructor
  · rintro ⟨hleast, hgreatest⟩
    obtain ⟨v, hv⟩ := exists_value_of_between h.least h.greatest hleast hgreatest
    exact ⟨v, hv, (le_iff_value_le h.least hv).mp hleast,
      (le_iff_value_le hv h.greatest).mp hgreatest⟩
  · rintro ⟨v, hv, hleast, hgreatest⟩
    exact ⟨(le_iff_value_le h.least hv).mpr hleast, (le_iff_value_le hv h.greatest).mpr hgreatest⟩

/-- **A coordinate fits if there is none or its value lies within the bound.** A latitude without a
longitude is checked by itself. -/
theorem coordinateFits_iff (h : Bounds bound degrees) (coordinate : Option Float) :
    coordinateFits bound coordinate = true ↔
      ∀ x ∈ coordinate, ∃ v, (readDouble x).value? = some v ∧ -degrees ≤ v ∧ v ≤ degrees := by
  cases coordinate with
  | none => simp [coordinateFits]
  | some x => simp [coordinateFits, h.withinDegrees_iff]

end Bounds

/-! ## Rows -/

/-- **A row is usable**: there is more than blanks in its id and its street name, and its
coordinates lie on the globe. -/
structure Row.Usable (r : Row) : Prop where
  id : ¬ Blanks r.id.toList
  streetName : ¬ Blanks r.streetName.toList
  latitude : ∀ x ∈ r.latitude, ∃ v, (readDouble x).value? = some v ∧ -90 ≤ v ∧ v ≤ 90
  longitude : ∀ x ∈ r.longitude, ∃ v, (readDouble x).value? = some v ∧ -180 ≤ v ∧ v ≤ 180

/-- **The check of a row decides whether it is usable.** -/
theorem Row.isUsable_iff (r : Row) : r.isUsable = true ↔ r.Usable := by
  have hlatitude : Bounds greatestLatitude 90 :=
    bounds_of_unpack (90 * 2 ^ 46) (-46) rfl rfl (by norm_num)
  have hlongitude : Bounds greatestLongitude 180 :=
    bounds_of_unpack (180 * 2 ^ 45) (-45) rfl rfl (by norm_num)
  simp only [isUsable, Bool.and_eq_true, bne_iff_ne, Text.trim_ne_empty_iff,
    hlatitude.coordinateFits_iff, hlongitude.coordinateFits_iff]
  constructor
  · rintro ⟨⟨⟨hid, hname⟩, hlatitude⟩, hlongitude⟩
    exact ⟨hid, hname, hlatitude, hlongitude⟩
  · rintro ⟨hid, hname, hlatitude, hlongitude⟩
    exact ⟨⟨⟨hid, hname⟩, hlatitude⟩, hlongitude⟩

instance (r : Row) : Decidable r.Usable :=
  decidable_of_iff _ r.isUsable_iff

/-- All texts of an address are trimmed, and it has an id and a street name. -/
structure Clean (a : Address) : Prop where
  trimmed : ∀ entry ∈ Index.Document.textsOf a, Trimmed entry.2.toList
  id : a.id ≠ ""
  streetName : a.streetName ≠ ""

/-- The address of a usable row is clean. Its id and its street name are not blank, so trimming
leaves something of them. -/
theorem Row.Usable.clean {r : Row} (h : r.Usable) : Clean r.toAddress where
  trimmed := by
    have htrimmed (s : String) : Trimmed (trim s).toList := by
      rw [trim, String.toList_ofList]
      exact trimmed_trimChars s.toList
    simp [Index.Document.textsOf, toAddress, htrimmed]
  id := (Text.trim_ne_empty_iff r.id).mpr h.id
  streetName := (Text.trim_ne_empty_iff r.streetName).mpr h.streetName

/-! ## Working through rows -/

/-- The usable rows among rows that have been read, malformed or not. -/
def usableRows (rows : List (Option Row)) : List Row :=
  rows.reduceOption.filter fun row => row.Usable

theorem usableRows_append (before after : List (Option Row)) :
    usableRows (before ++ after) = usableRows before ++ usableRows after := by
  rw [usableRows, List.reduceOption_append, List.filter_append]
  rfl

/-- A row that is malformed or not usable adds none, wherever in the rows it stands. -/
theorem usableRows_cons_of_not {bad : Option Row} (h : ∀ row ∈ bad, ¬ row.Usable)
    (rows : List (Option Row)) :
    usableRows (bad :: rows) = usableRows rows := by
  cases bad with
  | none => rfl
  | some row => simp [usableRows, h row rfl]

/-- **What rows give is the addresses of the usable ones**, by induction on the rows. A row is taken
or passed over by its own contents and not by its neighbours. -/
theorem addresses_ofRows (rows : List (Option Row)) :
    (Yield.ofRows rows).addresses = (usableRows rows).map Row.toAddress := by
  change rows.filterMap addressOf? = _
  induction rows with
  | nil => rfl
  | cons row rows ih =>
    cases row with
    | none => exact ih
    | some row =>
      by_cases husable : row.Usable
      · have haddress : addressOf? (some row) = some row.toAddress :=
          if_pos (row.isUsable_iff.mpr husable)
        rw [List.filterMap_cons_some haddress, ih]
        simp [usableRows, husable]
      · have haddress : addressOf? (some row) = none := if_neg (mt row.isUsable_iff.mp husable)
        rw [List.filterMap_cons_none haddress, ih, usableRows_cons_of_not (by simpa using husable)]

theorem length_usableRows_le (rows : List (Option Row)) : (usableRows rows).length ≤ rows.length :=
  (List.length_filter_le _ _).trans (List.reduceOption_length_le rows)

section

variable {σ : Type}

/-- Working through rows that have been read. -/
def parseRows (take : σ → Address → σ) (start : σ) (rows : List (Option Row)) : ParseCounts × σ :=
  rows.foldl (parseRow take) ({}, start)

theorem parse_eq_parseRows (take : σ → Address → σ) (start : σ) (bytes : List UInt8) :
    parse take start bytes = parseRows take start (rows bytes) := rfl

/-- **Working through rows** takes the addresses of the usable ones, each once and in order, and
counts the others. -/
theorem parseRows_eq (take : σ → Address → σ) (start : σ) (rows : List (Option Row)) :
    parseRows take start rows =
      (⟨(usableRows rows).length, rows.length - (usableRows rows).length⟩,
        ((usableRows rows).map Row.toAddress).foldl take start) := by
  have hcounted := length_addresses_add_skipped rows
  rw [addresses_ofRows, List.length_map] at hcounted
  rw [parseRows, foldl_parseRow, addresses_ofRows, List.length_map, ← hcounted,
    Nat.add_sub_cancel_left, Nat.zero_add, Nat.zero_add]

/-- **No usable row is lost, no other is taken, and none gets in the way of the others.** Whoever
takes the addresses of an extract takes those of its usable rows, each once and in order; every row
is counted once; what is taken is clean; and a row that is malformed or not usable, wherever it is
put in, leaves what is taken as it is and is counted as passed over. -/
theorem parseRows_isolates (take : σ → Address → σ) (start : σ) (rows : List (Option Row)) :
    let outcome := parseRows take start
    (∀ bytes, Extract.rows bytes = rows → parse take start bytes = outcome rows) ∧
    (outcome rows).2 = ((usableRows rows).map Row.toAddress).foldl take start ∧
    (outcome rows).1.records = (usableRows rows).length ∧
    (outcome rows).1.records + (outcome rows).1.skipped = rows.length ∧
    (∀ address ∈ (usableRows rows).map Row.toAddress, Clean address) ∧
    ∀ before after bad, before ++ after = rows → (∀ row ∈ bad, ¬ Row.Usable row) →
      usableRows (before ++ bad :: after) = usableRows rows ∧
      outcome (before ++ bad :: after) =
        (⟨(outcome rows).1.records, (outcome rows).1.skipped + 1⟩, (outcome rows).2) := by
  intro outcome
  have houtcome (rows : List (Option Row)) := parseRows_eq take start rows
  have hle := length_usableRows_le rows
  refine ⟨fun bytes hbytes => ?_, ?_, ?_, ?_, fun address haddress => ?_,
    fun before after bad hrows hbad => ?_⟩
  · rw [parse_eq_parseRows, hbytes]
  · rw [show outcome rows = _ from houtcome rows]
  · rw [show outcome rows = _ from houtcome rows]
  · rw [show outcome rows = _ from houtcome rows]
    exact Nat.add_sub_of_le hle
  · obtain ⟨row, hrow, rfl⟩ := List.mem_map.mp haddress
    exact (of_decide_eq_true (List.mem_filter.mp hrow).2 : row.Usable).clean
  -- A bad row makes one row more and no usable one, so that it is counted as passed over.
  · have husable : usableRows (before ++ bad :: after) = usableRows rows := by
      rw [usableRows_append, usableRows_cons_of_not hbad, ← usableRows_append, hrows]
    have hlength : (before ++ bad :: after).length = rows.length + 1 := by
      rw [← hrows, List.length_append, List.length_append, List.length_cons, Nat.add_assoc]
    refine ⟨husable, ?_⟩
    rw [show outcome (before ++ bad :: after) = _ from houtcome _,
      show outcome rows = _ from houtcome rows, husable, hlength, Nat.sub_add_comm hle]

/-- A row at the ends of both bounds. -/
def southPole : Row :=
  { id := " 1 ", streetName := "QUEEN", latitude := some (-90), longitude := some 180 }

/-- A row whose latitude is no number. -/
def nowhere : Row :=
  { id := "2", streetName := "KING", latitude := some (0 / 0) }

/-- A row that is nowhere, put in between a row with an address and a malformed one. -/
theorem parseRows_isolates_nowhere :
    (∀ row ∈ some nowhere, ¬ row.Usable) ∧
    parseRows (fun found address => found ++ [address.id]) []
      ([some southPole] ++ some nowhere :: [none]) =
      (⟨1, 2⟩, ["1"]) := by
  have hnowhere : ∀ row ∈ some nowhere, ¬ row.Usable := by decide
  refine ⟨hnowhere, ?_⟩
  refine ((parseRows_isolates _ [] _).2.2.2.2.2 _ _ _ rfl hnowhere).2.trans ?_
  rfl

end

end Extract

end Gazetteer

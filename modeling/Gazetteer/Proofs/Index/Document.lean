import Gazetteer.Index.Schema
import Gazetteer.Index.Search

/-!
# A document keeps its address

An address goes into its document as stored texts and numbers, empty ones left out, and is read back
from them unchanged (`address_ofAddress`). Both search paths build their hits from one document, and
both hits have the identity of its address: the record that the structured path reads back is the
address itself, and the completion is built from the stored id and line. So **both paths agree on
what a document is** (`Index.Document.keeps_identity`), and two documents are one only by their ids,
or without ids by their lines.
-/

namespace Gazetteer

open Index

/-! ## Stored texts -/

namespace Index.Document

/-- What an address says in a text slot. -/
def textAt (a : Address) : TextSlot → String
  | .id => a.id
  | .buildingName => a.buildingName
  | .flatType => a.flatType
  | .flatNumber => a.flatNumber
  | .numberFirst => a.numberFirst
  | .numberLast => a.numberLast
  | .streetName => a.streetName
  | .streetType => a.streetType
  | .locality => a.locality
  | .state => a.state
  | .postcode => a.postcode
  | .line => a.oneLine

/-- The texts that are put into a document are those of all its slots but the line, each with its
slot. Said so once, the slots need not be gone through one by one. -/
theorem textsOf_eq (a : Address) :
    textsOf a = (TextSlot.all.filter (· ≠ .line)).map fun slot => (slot, textAt a slot) := rfl

/-- Among texts with a slot each, the one of a slot is found if it is not empty. Empty texts are not
stored, and so are not found. -/
theorem find?_nonempty (value : TextSlot → String) (slots : List TextSlot) (slot : TextSlot) :
    ((slots.map fun s => (s, value s)).filter (·.2 ≠ "")).find? (·.1 == slot) =
      if slot ∈ slots ∧ value slot ≠ "" then some (slot, value slot) else none := by
  induction slots with
  | nil => simp
  | cons first rest ih =>
    by_cases hfirst : first = slot
    · subst hfirst
      by_cases hempty : value first = ""
      · simpa [hempty] using ih
      · simp [hempty]
    · have hslot : slot ≠ first := fun h => hfirst h.symm
      by_cases hempty : value first = ""
      · simpa [hempty, hslot] using ih
      · simpa [hempty, hslot, hfirst, List.find?_cons] using ih

/-- **Every stored text is read back**, an empty one as empty, since nothing was stored for it. -/
theorem text_ofAddress (a : Address) (slot : TextSlot) :
    (ofAddress a).text slot = textAt a slot := by
  simp only [text, ofAddress, textsOf_eq, List.find?_append, find?_nonempty]
  by_cases hempty : textAt a slot = ""
  · cases slot <;> simp_all [textAt]
  · cases slot <;> simp_all [textAt, TextSlot.all]

/-- **An address is read back from its document unchanged**, coordinates included. -/
theorem address_ofAddress (a : Address) : (ofAddress a).address = a := by
  have hlatitude : (ofAddress a).number? .latitude = a.latitude := by
    cases hlat : a.latitude <;> cases hlon : a.longitude <;> simp [number?, ofAddress, hlat, hlon]
  have hlongitude : (ofAddress a).number? .longitude = a.longitude := by
    cases hlat : a.latitude <;> cases hlon : a.longitude <;> simp [number?, ofAddress, hlat, hlon]
  simp only [address, text_ofAddress, hlatitude, hlongitude, textAt]

end Index.Document

/-- The index of a list of addresses, with a window. -/
abbrev AddressIndex.holding (addresses : List Address) (sortWindow : Nat) : AddressIndex :=
  (ofAddresses addresses).withSortWindow sortWindow

/-- Two flats of one building and a house in another street. -/
def neighbours : List Address :=
  [{ id := "A", flatNumber := "46", numberFirst := "15", streetName := "BREAKER" },
    { id := "B", flatNumber := "45", numberFirst := "15", streetName := "BREAKER" },
    { id := "C", numberFirst := "15", streetName := "SMITH" }]

/-! ## Identity -/

/-- The identity of an address. -/
def Address.identity (a : Address) : Identity :=
  if a.id = "" then .text (normalLine a.oneLine) else .id a.id

/-- Whatever its score, the structured hit of an address has the identity of the address. -/
theorem Hit.identity_structured (a : Address) (score : Score) :
    (Hit.structured a score).identity = a.identity := by
  by_cases hid : a.id = "" <;> simp [Hit.structured, Hit.identity, Address.identity, hid]

/-- **The completion of a document has the identity of its address**, although it is made from the
stored id and line and never sees the address. -/
theorem AddressIndex.identity_completionHit (a : Address) :
    (completionHit (Document.ofAddress a)).identity = a.identity := by
  rw [completionHit, Document.text_ofAddress, Document.text_ofAddress]
  by_cases hid : a.id = "" <;>
    simp [Hit.suggestion, Hit.identity, Address.identity, Document.textAt, hid, Option.filter]

/-- **Addresses have one identity** if they have one id, or no id and one line in its normal form.
An address with an id and one without are never the same. -/
theorem Address.identity_eq_iff (a b : Address) :
    a.identity = b.identity ↔
      (a.id = b.id ∧ a.id ≠ "") ∨
      (a.id = "" ∧ b.id = "" ∧ normalLine a.oneLine = normalLine b.oneLine) := by
  by_cases ha : a.id = "" <;> by_cases hb : b.id = "" <;> simp [identity, ha, hb]

/-- **A document keeps its address, and both paths find it under one identity**: the hit of the
record that is read back, at whatever score, and the completion from the stored id and line have the
same id, the same line and the same identity. Two documents have one identity exactly if their
addresses have, whichever path finds either.

An id counts as missing if it is empty, and then the identity is the normal form of the line. So two
addresses without ids are one if their lines differ in case or in blanks only, and an address with
an id is never one with an address without. -/
theorem Index.Document.keeps_identity (a b : Address) (s t : Score) :
    let record (a : Address) (score : Score) : Hit := .structured (ofAddress a).address score
    let completion (a : Address) : Hit := AddressIndex.completionHit (ofAddress a)
    (ofAddress a).address = a ∧
    (record a s).id = (completion a).id ∧
    (record a s).address = a.oneLine ∧ (completion a).address = a.oneLine ∧
    (record a s).identity = (completion a).identity ∧
    ((record a s).identity = (record b t).identity ↔
      (a.id = b.id ∧ a.id ≠ "") ∨
        (a.id = "" ∧ b.id = "" ∧ normalLine a.oneLine = normalLine b.oneLine)) := by
  intro record completion
  have hrecord (a : Address) (score : Score) : record a score = .structured a score :=
    congrArg (Hit.structured · score) (address_ofAddress a)
  have hcompletion : completion a = .suggestion (some a.id) a.oneLine 1 := by
    simp only [completion, AddressIndex.completionHit, text_ofAddress, textAt]
  refine ⟨address_ofAddress a, ?_, ?_, ?_, ?_, ?_⟩
  · rw [hrecord, hcompletion]
    by_cases hid : a.id = "" <;> simp [Hit.structured, Hit.suggestion, hid, Option.filter]
  · rw [hrecord, Hit.structured]
  · rw [hcompletion, Hit.suggestion]
  · rw [hrecord, Hit.identity_structured, AddressIndex.identity_completionHit]
  · rw [hrecord, hrecord, Hit.identity_structured, Hit.identity_structured, Address.identity_eq_iff]

end Gazetteer

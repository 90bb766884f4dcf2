import Gazetteer.Address
import Gazetteer.Score

/-!
# Hits

A hit is one address that a search path found. Hits of the structured path carry the address's
record; completions carry its line only. Two hits are about the same address when their identities
agree: the id where one is known, and otherwise the normal form of the line.
-/

namespace Gazetteer

/-- The search path that found a hit. -/
inductive Origin where
  | structured
  | suggest
deriving DecidableEq

/-- An address found, with its score. -/
structure Hit where
  id : Option String
  address : String
  record : Option Address
  score : Score
  origin : Origin

/-- What two hits about one address have in common. -/
inductive Identity where
  | id (id : String)
  | text (line : String)
deriving DecidableEq

namespace Hit

/-- A hit of the structured path; an empty id is none. -/
def structured (record : Address) (score : Score) : Hit where
  id := if record.id = "" then none else some record.id
  address := record.oneLine
  record := some record
  score
  origin := .structured

/-- A completion; an empty id is none. -/
def suggestion (id : Option String) (address : String) (score : Score) : Hit where
  id := id.filter (· ≠ "")
  address
  record := none
  score
  origin := .suggest

/-- **The identity of a hit.** -/
def identity (hit : Hit) : Identity :=
  match hit.id with
  | some id => if id = "" then .text (normalLine hit.address) else .id id
  | none => .text (normalLine hit.address)

end Hit

end Gazetteer

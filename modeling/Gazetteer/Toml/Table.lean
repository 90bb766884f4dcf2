import Gazetteer.Json

/-!
# TOML tables

A document is a table of tables. Three things make a table: a header that states it, a longer header
that implies it on its way, and a dotted key. A table is stated once at most, keys reach only tables
that dotted keys have made, and a value that is written out, an array or a table in braces included,
stays as it is written. Arrays of tables grow by one table with each of their headers, and later
headers and keys mean the last one.
-/

namespace Gazetteer.Toml

/-- What has made a table. -/
inductive TableKind where
  | stated
  | implied
  | dotted
deriving DecidableEq

/-- What a key stands for: a value, a table, or an array of tables with its last table first. -/
inductive Node where
  | value (json : Json)
  | table (kind : TableKind) (members : List (String × Node))
  | tables (lastFirst : List (List (String × Node)))

/-- Keys with what they stand for, in the order in which they came. -/
abbrev Members := List (String × Node)

namespace Members

/-- What a key stands for. -/
def node? (members : Members) (key : String) : Option Node :=
  (members.find? (·.1 == key)).map (·.2)

/-- Members in which a key stands for a node, at its old place if it has one. -/
def put (key : String) (node : Node) : Members → Members
  | [] => [(key, node)]
  | (other, old) :: rest =>
    if other = key then (key, node) :: rest else (other, old) :: put key node rest

/-- Changing the table at the end of a path. Tables that are missing on the way are made. A dotted
key does not pass through a table that a header has stated. -/
def within (dotted : Bool) (change : TableKind → Members → Option Members) :
    List String → TableKind → Members → Option Members
  | [], kind, members => change kind members
  | key :: path, _, members =>
    match members.node? key with
    | none => do
      let made := if dotted then TableKind.dotted else .implied
      let inner ← within dotted change path made []
      some (members.put key (.table made inner))
    | some (.table kind inner) =>
      if dotted ∧ kind = .stated then none
      else do
        let inner ← within dotted change path kind inner
        some (members.put key (.table kind inner))
    | some (.tables (last :: earlier)) => do
      let last ← within dotted change path .stated last
      some (members.put key (.tables (last :: earlier)))
    | some _ => none

/-- Stating a table under its last key. -/
def state (key : String) (members : Members) : Option Members :=
  match members.node? key with
  | none => some (members.put key (.table .stated []))
  | some (.table .implied inner) => some (members.put key (.table .stated inner))
  | some _ => none

/-- Adding a table to an array of tables under its last key. -/
def append (key : String) (members : Members) : Option Members :=
  match members.node? key with
  | none => some (members.put key (.tables [[]]))
  | some (.tables earlier) => some (members.put key (.tables ([] :: earlier)))
  | some _ => none

/-- Giving a value to the key at the end of a path of dotted keys. -/
def assign (path : List String) (key : String) (json : Json) (kind : TableKind)
    (members : Members) :
    Option Members :=
  let change (kind : TableKind) (members : Members) : Option Members :=
    if (kind = .dotted) = (path = []) then none
    else if (members.node? key).isSome then none
    else some (members.put key (.value json))
  within true change path kind members

end Members

mutual

/-- The JSON value of a node. -/
def Node.json : Node → Json
  | .value json => json
  | .table _ members => .object (membersJson members)
  | .tables lastFirst => .array (tablesJson lastFirst).reverse

/-- The JSON values of members. -/
def membersJson : List (String × Node) → List (String × Json)
  | [] => []
  | (key, node) :: rest => (key, node.json) :: membersJson rest

/-- The JSON values of tables. -/
def tablesJson : List (List (String × Node)) → List Json
  | [] => []
  | members :: rest => .object (membersJson members) :: tablesJson rest

end

end Gazetteer.Toml

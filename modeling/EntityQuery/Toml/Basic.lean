import EntityQuery.Json.Fields

/-!
# TOML tables

A TOML document is a list of statements that fill a tree of tables, and most of its rules say which
statements may touch a table that is already there. A table written under a header is closed to dotted
keys from elsewhere, a table that dotted keys made is closed to headers, and one that is there only
because a table inside of it was named can be written once. The finished tree is a document without
these distinctions, as which settings are read from it.
-/

namespace EntityQuery.Toml

/-- How a table came into being. -/
inductive TableKind where
  /-- It has a header of its own. -/
  | header
  /-- Headers of tables inside of it name it. -/
  | implied
  /-- Dotted keys name it. -/
  | dotted
  deriving DecidableEq, Repr

/-- What a key of a table under construction leads to. -/
inductive Node where
  /-- A value, to which nothing can be added. -/
  | value (j : Json)
  | table (kind : TableKind) (entries : List (String × Node))
  /-- Tables that were written one after the other under the same header. -/
  | tables (items : List (List (String × Node)))

/-- The entries of a table under construction. No key has two. -/
abbrev Entries := List (String × Node)

/-! ### Tables as documents -/

mutual

/-- The document that a node stands for. -/
def Node.toJson : Node → Json
  | .value j => j
  | .table _ entries => .object (entriesToJson entries)
  | .tables items => .array (itemsToJson items)

/-- The fields that the entries of a table stand for. -/
def entriesToJson : List (String × Node) → List (Json.Text × Json)
  | [] => []
  | (key, node) :: rest => (some key, node.toJson) :: entriesToJson rest

/-- The items that an array of tables stands for. -/
def itemsToJson : List (List (String × Node)) → List Json
  | [] => []
  | entries :: rest => .object (entriesToJson entries) :: itemsToJson rest

end

/-! ### Statements -/

/-- The entries with the node of a key replaced. -/
def setNode (key : String) (node : Node) (entries : Entries) : Entries :=
  entries.map fun e => if e.1 = key then (key, node) else e

/-- Changes the table at the end of a path from a table. Tables on the path that are not there are
made, of the given kind; of tables under one header the last one is meant. A path of dotted keys does
not lead through a table with a header. `change` is told the kind of the table it changes. -/
def update (made : TableKind) (change : TableKind → Entries → Option Entries) :
    List String → TableKind → Entries → Option Entries
  | [], kind, entries => change kind entries
  | key :: path, _, entries =>
    match entries.lookup key with
    | none => do
      let inner ← update made change path made []
      some (entries ++ [(key, .table made inner)])
    | some (.table kind inner) =>
      if made = .dotted ∧ kind = .header then none
      else do
        let inner ← update made change path kind inner
        some (setNode key (.table kind inner) entries)
    | some (.tables items) => do
      let last ← update made change path .header (items.getLastD [])
      some (setNode key (.tables (items.dropLast ++ [last])) entries)
    | some (.value _) => none

/-- Adds an entry to a table, under a key that is not there. -/
def addEntry (key : String) (node : Node) (entries : Entries) : Option Entries :=
  if (entries.lookup key).isSome then none else some (entries ++ [(key, node)])

/-- Adds a value under a dotted key, given by the keys before its last one and the last one. A dotted
key adds only to tables that dotted keys made. -/
def addValue (path : List String) (key : String) (j : Json) (entries : Entries) : Option Entries :=
  let change := fun (kind : TableKind) (entries : Entries) =>
    if path ≠ [] ∧ kind ≠ .dotted then none else addEntry key (.value j) entries
  update .dotted change path .header entries

/-- Opens the table with a header. It may be there only because tables inside of it are. -/
def openTable (path : List String) (key : String) (root : Entries) : Option Entries :=
  let change := fun (_ : TableKind) (entries : Entries) =>
    match entries.lookup key with
    | none => some (entries ++ [(key, .table .header [])])
    | some (.table .implied inner) => some (setNode key (.table .header inner) entries)
    | some _ => none
  update .implied change path .header root

/-- Opens one more of the tables with one header. -/
def openItem (path : List String) (key : String) (root : Entries) : Option Entries :=
  let change := fun (_ : TableKind) (entries : Entries) =>
    match entries.lookup key with
    | none => some (entries ++ [(key, .tables [[]])])
    | some (.tables items) => some (setNode key (.tables (items ++ [[]])) entries)
    | some _ => none
  update .implied change path .header root

/-- The notation of TOML: a table or an array without entries says nothing, and items beyond the last
field of a structure are passed over. -/
def style : Json.Style where
  isUnit
    | .array [] => true
    | .object [] => true
    | _ => false
  extraItems := true

end EntityQuery.Toml

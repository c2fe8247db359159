import EntityQuery.Json.Basic

/-!
# Structures in documents

A structure is read from an object by the names of its fields, or from an array by their order. A field
that is missing may have a default; which ones do is for the reader of the structure to say. Choices
among names are strings, or objects with the name as their only key.
-/

namespace EntityQuery.Json

/-- What notations of documents differ in. -/
structure Style where
  /-- What may stand at the name of a choice that carries nothing. -/
  isUnit : Json → Bool
  /-- Whether items beyond the last field of a structure are passed over. -/
  extraItems : Bool

/-- The notation of JSON: null says nothing, and every item of an array counts. -/
def jsonStyle : Style where
  isUnit
    | .null => true
    | _ => false
  extraItems := false

/-- Pairs fields with items in their order. -/
def positional (n : Style) : List String → List Json → Option (List (Option Json))
  | [], [] => some []
  | [], _ :: _ => if n.extraItems then some [] else none
  | _ :: names, [] => (positional n names []).map (none :: ·)
  | _ :: names, j :: items => (positional n names items).map (some j :: ·)

/-- The entries of an object under a key. -/
def entriesOf (key : String) (entries : List (Text × Json)) : List Json :=
  (entries.filter fun e => e.1 == some key).map Prod.snd

/-- The entry of an object under each of some keys. No key may occur twice. -/
def byName (entries : List (Text × Json)) : List String → Option (List (Option Json))
  | [] => some []
  | name :: names =>
    match entriesOf name entries with
    | [] => (byName entries names).map (none :: ·)
    | [j] => (byName entries names).map (some j :: ·)
    | _ => none

/-- The fields of a structure. Other keys of an object are passed over, unless the structure is closed;
all keys must be texts. -/
def fields? (n : Style) (closed : Bool) (names : List String) : Json → Option (List (Option Json))
  | .array items => positional n names items
  | .object entries =>
    if entries.all fun e => e.1.isSome && (!closed || names.any fun name => e.1 == some name) then
      byName entries names
    else none
  | _ => none

/-! ### Readers of fields -/

/-- Reads a text. -/
def text? : Json → Option String
  | .string t => t
  | _ => none

/-- Reads a truth value. -/
def bool? : Json → Option Bool
  | .bool b => some b
  | _ => none

/-- The items of an array, each read by `f`. -/
def list? {α : Type} (f : Json → Option α) : Json → Option (List α)
  | .array items => items.mapM f
  | _ => none

/-- A value or null. -/
def nullable? {α : Type} (f : Json → Option α) : Json → Option (Option α)
  | .null => some none
  | j => (f j).map some

/-- What is named by a choice. -/
def choice? {α : Type} (n : Style) (table : List (String × α)) : Json → Option α
  | .string (some s) => table.lookup s
  | .object [(some s, j)] => if n.isUnit j then table.lookup s else none
  | _ => none

/-- A field that has to be there. -/
def required? {α : Type} (f : Json → Option α) (j : Option Json) : Option α := j >>= f

/-- A field that has a default. -/
def defaulted? {α : Type} (f : Json → Option α) (default : α) : Option Json → Option α
  | none => some default
  | some j => f j

end EntityQuery.Json

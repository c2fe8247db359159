import EntityQuery.Json.Fields
import EntityQuery.Json.Number

/-!
# Looking into documents

Parts of a document by their keys and by what they are.
-/

namespace EntityQuery.Json

/-- The entries of an object whose keys are texts. -/
def entries : Json → List (String × Json)
  | object es => es.filterMap fun e => e.1.map fun key => (key, e.2)
  | _ => []

/-- The entry of an object under a key. -/
def get? (j : Json) (key : String) : Option Json := j.entries.lookup key

/-- The items that a document is an array of. -/
def items? : Json → Option (List Json)
  | array items => some items
  | _ => none

/-- The whole number that a document is. -/
def int? : Json → Option Int
  | number n => n.integer?
  | _ => none

/-- The natural number that a document is. -/
def nat? (j : Json) : Option Nat := j.int?.bind fun i => if 0 ≤ i then some i.toNat else none

/-- The number that stands for an integer. -/
def ofInt (i : Int) : Json := .number ⟨i < 0, Nat.toDigits 10 i.natAbs, [], none⟩

/-- The object with these entries. -/
def ofEntries (es : List (String × Json)) : Json := .object (es.map fun (key, j) => (some key, j))

end EntityQuery.Json

import EntityQuery.Decimal.Literal
import EntityQuery.Json.Access
import EntityQuery.Timestamp.Reader
import EntityQuery.Value.Basic

/-!
# Tagged values

Plain JSON cannot tell a decimal from a float, or an identifier from the text it is written as. In the
tagged notation such values are objects whose only key names their kind, so that every value reads back
as what it was, the scale of a decimal included.
-/

namespace EntityQuery.Value

/-- The value of an object in the tagged notation. -/
def ofTag? (tag text : String) : Option Value :=
  match tag with
  | "dec" => (Decimal.ofLiteral? text.toList).map .decimal
  | "dt" => (Timestamp.ofStrict? text.toList <|> Timestamp.ofRelaxed? text.toList).map .dateTime
  | "uuid" => (Uuid.ofChars? text.toList).map .uuid
  | _ => none

/-- The integer of 64 bits that a number is. -/
def ofWholeNumber? (n : Json.Number) : Option Value :=
  n.integer?.bind fun i =>
    if Int64.minValue.toInt ≤ i ∧ i ≤ Int64.maxValue.toInt then some (.int (Int64.ofInt i)) else none

mutual

/-- Reads a value in the tagged notation. -/
def ofTagged? : Json → Option Value
  | .null => some .null
  | .bool b => some (.bool b)
  | .number n => ofWholeNumber? n
  | .string s => s.map .string
  | .array items => (ofTaggedItems? items).map .list
  | .object [(some tag, .string (some text))] => ofTag? tag text
  | .object _ => none

/-- Reads the items of a list. -/
def ofTaggedItems? : List Json → Option (List Value)
  | [] => some []
  | j :: rest => do
    let v ← ofTagged? j
    let vs ← ofTaggedItems? rest
    some (v :: vs)

end

/-- An object in the tagged notation. -/
def tagged (tag text : String) : Json := .object [(some tag, .ofString text)]

mutual

/-- A value in the tagged notation. -/
def toTagged : Value → Json
  | null => .null
  | bool b => .bool b
  | int i => .ofInt i.toInt
  | decimal d => tagged "dec" d.toText
  | string s => .ofString s
  | dateTime t => tagged "dt" t.toText
  | uuid u => tagged "uuid" u.toText
  | list items => .array (toTaggedItems items)

/-- The items of a list, each with its tag. -/
def toTaggedItems : List Value → List Json
  | [] => []
  | v :: rest => toTagged v :: toTaggedItems rest

end

end EntityQuery.Value

import EntityQuery.Decimal.Binary
import EntityQuery.Decimal.Literal
import EntityQuery.Json.Number
import EntityQuery.Json.Writer
import EntityQuery.Timestamp.Reader
import EntityQuery.Value.Basic

/-!
# Values in JSON

A value is transmitted without a tag, so the kind is read off the document: a string that is a
timestamp or an identifier is one, and a number that is no integer of 64 bits is a decimal. Decimals are
written as binary numbers.
-/

namespace EntityQuery.Value

/-- How deep a document may be nested to be a value. -/
def maxDepth : Nat := 127

/-- The value of a string. -/
def ofText (s : String) : Value :=
  match Timestamp.ofRelaxed? s.toList with
  | some t => .dateTime t
  | none =>
    match Uuid.ofChars? s.toList with
    | some u => .uuid u
    | none => .string s

/-- The value of a number: an integer, or a decimal with the shortest digits of the binary number. -/
def ofNumber? (n : Json.Number) : Option Value :=
  match n.integer? with
  | some i =>
    if Int64.minValue.toInt ≤ i ∧ i ≤ Int64.maxValue.toInt then some (.int (Int64.ofInt i))
    else (Decimal.ofParts? (i < 0) i.natAbs 0).map .decimal
  | none => do
    let b ← n.binary?
    (Decimal.ofLiteral? (b.toText .plain)).map .decimal

mutual

/-- The value of a document, if it has no objects. -/
def ofTree? : Json → Option Value
  | .null => some .null
  | .bool b => some (.bool b)
  | .number n => ofNumber? n
  | .string t => t.map ofText
  | .array items => (ofTrees? items).map .list
  | .object _ => none

/-- The values that documents stand for, if each of them stands for one. -/
def ofTrees? : List Json → Option (List Value)
  | [] => some []
  | j :: rest => do
    let v ← ofTree? j
    let vs ← ofTrees? rest
    some (v :: vs)

end

/-- The value of a document that is not nested too deep. -/
def ofJson? (j : Json) : Option Value := if j.depth ≤ maxDepth then ofTree? j else none

/-- The value that a JSON text transmits. -/
def ofJsonText? (s : String) : Option Value := Json.read? s.toList >>= ofJson?

/-- How binary numbers are written in JSON. -/
def jsonLayout : Binary64.Layout where
  tie := .even
  positional p := -5 ≤ p ∧ p < 16
  pointZero := true
  plusSign := true

mutual

/-- A value as it is transmitted. -/
def toJsonChars : Value → List Char
  | null => "null".toList
  | bool b => (if b then "true" else "false").toList
  | int i => (toString i.toInt).toList
  | decimal d => d.toBinary.toText jsonLayout
  | string s => Json.quoteChars s.toList
  | dateTime t => Json.quoteChars t.toWireText.toList
  | uuid u => Json.quoteChars u.toChars
  | list items => '[' :: Json.commaSeparated (itemJsonChars items) ++ [']']

/-- The texts of the items of a list. -/
def itemJsonChars : List Value → List (List Char)
  | [] => []
  | v :: rest => toJsonChars v :: itemJsonChars rest

end

/-- A value as JSON text. -/
def toJsonText (v : Value) : String := .ofList v.toJsonChars

end EntityQuery.Value

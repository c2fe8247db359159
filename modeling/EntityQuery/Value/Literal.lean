import EntityQuery.Decimal.Literal
import EntityQuery.Error
import EntityQuery.Timestamp.Reader
import EntityQuery.Value.Basic

/-!
# Literals of requests

Clients send values as texts, and the declared family says how to read them. Blanks around a literal
are ignored, except in strings, which are taken as they are.
-/

namespace EntityQuery.Family

open Text

/-- Reads a whole number of 64 bits: a sign and digits. -/
def readInt64? (s : List Char) : Option Int64 :=
  let (negative, ds) := match s with
    | '-' :: rest => (true, rest)
    | '+' :: rest => (false, rest)
    | s => (false, s)
  if ds ≠ [] ∧ ds.all Char.isDigit then
    let n : Int := digitsValue ds
    let i := if negative then -n else n
    if Int64.minValue.toInt ≤ i ∧ i ≤ Int64.maxValue.toInt then some (Int64.ofInt i) else none
  else none

/-- Reads a truth value, in words of either case or as a digit. -/
def readBool? (s : List Char) : Option Bool :=
  let word := String.ofList (s.map Char.toLower)
  if word = "true" ∨ word = "1" then some true
  else if word = "false" ∨ word = "0" then some false
  else none

/-- The value that a literal denotes in a family, if it is one of the family's literals. -/
def read? (f : Family) (raw : String) : Option Value :=
  let s := trim raw.toList
  match f with
  | string => some (.string raw)
  | integer => (readInt64? s).map .int
  | decimal => (Decimal.ofLiteral? s).map .decimal
  | boolean => (readBool? s).map .bool
  | dateTime => (Timestamp.ofLiteral? s).map .dateTime
  | uuid => (Uuid.ofChars? s).map .uuid

/-- Why a text is no literal of a family. -/
def literalError (f : Family) (raw : String) : QueryError :=
  let e := QueryError.valueParse raw f.name
  match f with
  | boolean => e.withSuggestion "Use one of: true, false, 1, 0"
  | dateTime => e.withSuggestion "Use RFC 3339 (2024-01-31T12:00:00Z) or YYYY-MM-DD"
  | _ => e.withSource

/-- Reads a literal of a request. -/
def parse (f : Family) (raw : String) : Result Value :=
  match f.read? raw with
  | some v => .ok v
  | none => .error (f.literalError raw)

@[simp] theorem read?_string (raw : String) : read? .string raw = some (.string raw) := rfl

theorem parse_eq_ok_iff {f : Family} {raw : String} {v : Value} :
    f.parse raw = .ok v ↔ f.read? raw = some v := by
  unfold parse
  split <;> simp_all

end EntityQuery.Family

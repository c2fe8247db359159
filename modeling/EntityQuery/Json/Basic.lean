/-!
# JSON documents

The tree of a JSON text. Numbers keep their digits, because what a number means depends on who reads
it, and objects keep the order and the repetitions of their keys.
-/

namespace EntityQuery

namespace Json

/-- A number as it is written. A missing fraction has no digits. -/
structure Number where
  negative : Bool
  whole : List Char
  fraction : List Char := []
  /-- The digits of the exponent and whether it is negative. -/
  exponent : Option (Bool × List Char) := none
  deriving DecidableEq

/-- The text of a string. It is missing if the string holds half of a surrogate pair, which no text
contains. -/
abbrev Text := Option String

end Json

/-- A JSON document. -/
inductive Json where
  | null
  | bool (b : Bool)
  | number (n : Json.Number)
  | string (s : Json.Text)
  | array (items : List Json)
  | object (entries : List (Json.Text × Json))

namespace Json

mutual

/-- How deep arrays and objects are nested. -/
def depth : Json → Nat
  | array items => itemsDepth items + 1
  | object entries => entriesDepth entries + 1
  | _ => 0

/-- How deep the deepest item is nested. -/
def itemsDepth : List Json → Nat
  | [] => 0
  | j :: rest => max (depth j) (itemsDepth rest)

/-- How deep the deepest field is nested. -/
def entriesDepth : List (Json.Text × Json) → Nat
  | [] => 0
  | (_, j) :: rest => max (depth j) (entriesDepth rest)

end

/-- The number that stands for a natural number. -/
def ofNat (n : Nat) : Json := .number ⟨false, Nat.toDigits 10 n, [], none⟩

/-- The string that holds a text. -/
def ofString (s : String) : Json := .string (some s)

end Json

end EntityQuery

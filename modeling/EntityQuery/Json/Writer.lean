import EntityQuery.Json.Basic
import EntityQuery.Text.Digits

/-!
# Writing JSON

Documents are written without blanks. In a string the quote, the backslash and the control characters
are escaped, and every other character stands for itself.
-/

namespace EntityQuery.Json

/-- A character as it stands inside a string. -/
def escapeChar (c : Char) : List Char :=
  match c with
  | '"' => ['\\', '"']
  | '\\' => ['\\', '\\']
  | '\x08' => ['\\', 'b']
  | '\x0c' => ['\\', 'f']
  | '\n' => ['\\', 'n']
  | '\r' => ['\\', 'r']
  | '\t' => ['\\', 't']
  | _ =>
    if c.toNat < 0x20 then ['\\', 'u', '0', '0', Nat.digitChar (c.toNat / 16), Nat.digitChar (c.toNat % 16)]
    else [c]

/-- A text between quotes. -/
def quoteChars (s : List Char) : List Char := '"' :: s.flatMap escapeChar ++ ['"']

/-- A number with the digits it consists of. -/
def Number.toChars (n : Number) : List Char :=
  (if n.negative then ['-'] else []) ++ n.whole ++
    (if n.fraction = [] then [] else '.' :: n.fraction) ++
    (match n.exponent with
      | none => []
      | some (negative, ds) => 'e' :: (if negative then ['-'] else []) ++ ds)

/-- Texts with commas between them. -/
def commaSeparated : List (List Char) → List Char
  | [] => []
  | [s] => s
  | s :: rest => s ++ ',' :: commaSeparated rest

mutual

/-- A document as it is written. -/
def toChars : Json → List Char
  | null => "null".toList
  | bool b => (if b then "true" else "false").toList
  | number n => n.toChars
  | string t => quoteChars ((t.getD "").toList)
  | array items => '[' :: commaSeparated (itemChars items) ++ [']']
  | object entries => '\x7b' :: commaSeparated (entryChars entries) ++ ['\x7d']

/-- The texts of the items of an array. -/
def itemChars : List Json → List (List Char)
  | [] => []
  | j :: rest => toChars j :: itemChars rest

/-- The texts of the fields of an object, each with its key. -/
def entryChars : List (Text × Json) → List (List Char)
  | [] => []
  | (key, j) :: rest => (quoteChars ((key.getD "").toList) ++ ':' :: toChars j) :: entryChars rest

end

/-- A document as text. -/
def toText (j : Json) : String := .ofList j.toChars

end EntityQuery.Json

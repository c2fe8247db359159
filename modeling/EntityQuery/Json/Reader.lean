import EntityQuery.Json.Basic
import EntityQuery.Text.Digits
import EntityQuery.Text.Hexadecimal

/-!
# Reading JSON

The readers follow the grammar of JSON and give back the rest of the text. Nesting is unlimited; the
fuel of the mutual readers is the length of the text, of which every step takes a character.
-/

namespace EntityQuery.Json

open Text (digitsValue)

/-- JSON's own blanks. -/
def isSpace (c : Char) : Bool := c == ' ' || c == '\n' || c == '\t' || c == '\r'

/-- The text after the blanks at its start. -/
def skipSpaces (s : List Char) : List Char := s.dropWhile isSpace

/-! ### Numbers -/

/-- Takes all digits at the front of a text. -/
def spanDigits (s : List Char) : List Char × List Char :=
  (s.takeWhile Char.isDigit, s.dropWhile Char.isDigit)

/-- Reads the fraction of a number, which needs a digit. -/
def readFraction? (s : List Char) : Option (List Char × List Char) :=
  match s with
  | '.' :: rest =>
    let (ds, rest) := spanDigits rest
    if ds = [] then none else some (ds, rest)
  | _ => some ([], s)

/-- Reads the exponent of a number, which needs a digit. -/
def readExponent? (s : List Char) : Option (Option (Bool × List Char) × List Char) :=
  match s with
  | [] => some (none, [])
  | c :: rest =>
    if c = 'e' ∨ c = 'E' then
      let (negative, rest) := match rest with
        | '-' :: rest => (true, rest)
        | '+' :: rest => (false, rest)
        | _ => (false, rest)
      let (ds, rest) := spanDigits rest
      if ds = [] then none else some (some (negative, ds), rest)
    else some (none, s)

/-- Reads a number. Its whole part is not empty, and starts with a zero only if it is one. -/
def readNumber? (s : List Char) : Option (Number × List Char) := do
  let (negative, s) := match s with
    | '-' :: rest => (true, rest)
    | _ => (false, s)
  let (whole, s) := spanDigits s
  if whole = [] ∨ (whole.head? = some '0' ∧ whole.length ≠ 1) then none
  else
    let (fraction, s) ← readFraction? s
    let (exponent, s) ← readExponent? s
    some (⟨negative, whole, fraction, exponent⟩, s)

/-! ### Strings -/

/-- A piece of a string: a character, or a code unit given by its number. -/
inductive Piece where
  | char (c : Char)
  | unit (n : Nat)

/-- The character that a short escape stands for. -/
def escapedChar? (c : Char) : Option Char :=
  match c with
  | '"' => some '"'
  | '\\' => some '\\'
  | '/' => some '/'
  | 'b' => some '\x08'
  | 'f' => some '\x0c'
  | 'n' => some '\n'
  | 'r' => some '\r'
  | 't' => some '\t'
  | _ => none

/-- Reads a string up to its closing quote. -/
def readPieces? : List Char → Option (List Piece × List Char)
  | [] => none
  | '"' :: rest => some ([], rest)
  | '\\' :: 'u' :: a :: b :: c :: d :: rest => do
    let n ← Text.hexNumber? [a, b, c, d]
    let (ps, rest) ← readPieces? rest
    some (.unit n :: ps, rest)
  | '\\' :: e :: rest => do
    let c ← escapedChar? e
    let (ps, rest) ← readPieces? rest
    some (.char c :: ps, rest)
  | c :: rest => do
    if c.toNat < 0x20 ∨ c = '\\' then none
    else
      let (ps, rest) ← readPieces? rest
      some (.char c :: ps, rest)

/-- Whether a code unit is the first half of a surrogate pair. -/
def isHighSurrogate (n : Nat) : Bool := 0xD800 ≤ n && n ≤ 0xDBFF

/-- Whether a code unit is the second half of a surrogate pair. -/
def isLowSurrogate (n : Nat) : Bool := 0xDC00 ≤ n && n ≤ 0xDFFF

/-- Joins the two halves of surrogate pairs. A half without its other half makes the text missing. -/
def joinPieces? : List Piece → Option (List Char)
  | [] => some []
  | .char c :: rest => (joinPieces? rest).map (c :: ·)
  | .unit h :: .unit l :: rest =>
    if isHighSurrogate h then
      if isLowSurrogate l then
        (joinPieces? rest).map (Char.ofNat (0x10000 + (h - 0xD800) * 0x400 + (l - 0xDC00)) :: ·)
      else none
    else if isLowSurrogate h then none
    else (joinPieces? (.unit l :: rest)).map (Char.ofNat h :: ·)
  | .unit n :: rest =>
    if isHighSurrogate n || isLowSurrogate n then none
    else (joinPieces? rest).map (Char.ofNat n :: ·)

/-- Reads a string after its opening quote. -/
def readString? (s : List Char) : Option (Text × List Char) :=
  (readPieces? s).map fun (ps, rest) => ((joinPieces? ps).map String.ofList, rest)

/-! ### Documents -/

/-- The text after a given word. -/
def expectWord? (word s : List Char) : Option (List Char) :=
  if s.take word.length = word then some (s.drop word.length) else none

mutual

/-- Reads a document after blanks. -/
def readValue? : Nat → List Char → Option (Json × List Char)
  | 0, _ => none
  | fuel + 1, s =>
    match skipSpaces s with
    | [] => none
    | '"' :: rest => (readString? rest).map fun (t, rest) => (.string t, rest)
    | '[' :: rest =>
      match skipSpaces rest with
      | ']' :: rest => some (.array [], rest)
      | rest => (readItems? fuel rest).map fun (items, rest) => (.array items, rest)
    | '\x7b' :: rest =>
      match skipSpaces rest with
      | '\x7d' :: rest => some (.object [], rest)
      | rest => (readEntries? fuel rest).map fun (entries, rest) => (.object entries, rest)
    | 'n' :: rest => (expectWord? ['u', 'l', 'l'] rest).map fun rest => (.null, rest)
    | 't' :: rest => (expectWord? ['r', 'u', 'e'] rest).map fun rest => (.bool true, rest)
    | 'f' :: rest => (expectWord? ['a', 'l', 's', 'e'] rest).map fun rest => (.bool false, rest)
    | s => (readNumber? s).map fun (n, rest) => (.number n, rest)

/-- Reads the items of an array, of which there is at least one, up to its closing bracket. -/
def readItems? : Nat → List Char → Option (List Json × List Char)
  | 0, _ => none
  | fuel + 1, s => do
    let (j, rest) ← readValue? fuel s
    match skipSpaces rest with
    | ']' :: rest => some ([j], rest)
    | ',' :: rest =>
      let (items, rest) ← readItems? fuel rest
      some (j :: items, rest)
    | _ => none

/-- Reads the entries of an object, of which there is at least one, up to its closing brace. -/
def readEntries? : Nat → List Char → Option (List (Text × Json) × List Char)
  | 0, _ => none
  | fuel + 1, s =>
    match skipSpaces s with
    | '"' :: rest => do
      let (key, rest) ← readString? rest
      match skipSpaces rest with
      | ':' :: rest =>
        let (j, rest) ← readValue? fuel rest
        match skipSpaces rest with
        | '\x7d' :: rest => some ([(key, j)], rest)
        | ',' :: rest =>
          let (entries, rest) ← readEntries? fuel rest
          some ((key, j) :: entries, rest)
        | _ => none
      | _ => none
    | _ => none

end

/-- Reads a whole text as one document. -/
def read? (s : List Char) : Option Json := do
  let (j, rest) ← readValue? (s.length + 1) s
  if skipSpaces rest = [] then some j else none

end EntityQuery.Json

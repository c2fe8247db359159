import EntityQuery.Json.Number
import EntityQuery.Text.Hexadecimal
import EntityQuery.Timestamp.Basic

/-!
# TOML scalars

Numbers, truth values and moments are words that end where a character comes that cannot belong to one.
Strings are between double quotes, with escapes, or between single quotes, without; either kind may have
three quotes at each end, and then holds line breaks and up to two quotes in a row.
-/

namespace EntityQuery.Toml

open Text (digitsValue expect? hexNumber? hexValue? numberInBase? takeNumber?)

/-- A blank that does not end a line. -/
def isSpace (c : Char) : Bool := c == ' ' || c == '\t'

/-- Whether a character may stand by itself in strings and comments. -/
def isPlain (c : Char) : Bool := c == '\t' || (0x20 ≤ c.toNat && c.toNat != 0x7F)

/-! ### Strings -/

/-- The character with a code point in hexadecimal digits. -/
def charOfHex? (ds : List Char) : Option Char := do
  let n ← hexNumber? ds
  if n.isValidChar then some (Char.ofNat n) else none

/-- The character that a short escape stands for. -/
def escapedChar? (c : Char) : Option Char :=
  match c with
  | '"' => some '"'
  | '\\' => some '\\'
  | 'b' => some '\x08'
  | 'f' => some '\x0c'
  | 'n' => some '\n'
  | 'r' => some '\r'
  | 't' => some '\t'
  | _ => none

/-- Puts a character before the text that a reader gives. -/
def consChar (c : Char) (r : Option (List Char × List Char)) : Option (List Char × List Char) :=
  r.map fun (s, rest) => (c :: s, rest)

/-- Reads the rest of a string in one line between double quotes. -/
def readBasic? : List Char → Option (List Char × List Char)
  | [] => none
  | '"' :: rest => some ([], rest)
  | '\\' :: 'u' :: a :: b :: c :: d :: rest => do
    let x ← charOfHex? [a, b, c, d]
    consChar x (readBasic? rest)
  | '\\' :: 'U' :: a :: b :: c :: d :: e :: f :: g :: h :: rest => do
    let x ← charOfHex? [a, b, c, d, e, f, g, h]
    consChar x (readBasic? rest)
  | '\\' :: e :: rest => do
    let x ← escapedChar? e
    consChar x (readBasic? rest)
  | c :: rest => if isPlain c && c != '\\' then consChar c (readBasic? rest) else none

/-- Reads the rest of a string in one line between single quotes. -/
def readLiteral? : List Char → Option (List Char × List Char)
  | [] => none
  | '\x27' :: rest => some ([], rest)
  | c :: rest => if isPlain c then consChar c (readLiteral? rest) else none

/-- Whether a line ends where this text starts. -/
def startsLine (s : List Char) : Bool :=
  match s with
  | '\n' :: _ | '\r' :: '\n' :: _ => true
  | _ => false

/-- What three quotes at the end of a string leave: up to two quotes more belong to the string. -/
def closeLong (quote : Char) (rest : List Char) : List Char × List Char :=
  let extra := (rest.take 2).takeWhile (· == quote)
  (extra, rest.drop extra.length)

/-- Reads the rest of a string between three double quotes at each end. After a backslash at the end of
a line, `trimming` is set and blanks and line breaks are passed over. -/
def readLongBasic? (trimming : Bool) : List Char → Option (List Char × List Char)
  | [] => none
  | '\r' :: '\n' :: rest =>
    if trimming then readLongBasic? true rest else consChar '\n' (readLongBasic? false rest)
  | '\\' :: 'u' :: a :: b :: c :: d :: rest => do
    let x ← charOfHex? [a, b, c, d]
    consChar x (readLongBasic? false rest)
  | '\\' :: 'U' :: a :: b :: c :: d :: e :: f :: g :: h :: rest => do
    let x ← charOfHex? [a, b, c, d, e, f, g, h]
    consChar x (readLongBasic? false rest)
  | '\\' :: e :: rest =>
    if startsLine ((e :: rest).dropWhile isSpace) then readLongBasic? true (e :: rest)
    else do
      let x ← escapedChar? e
      consChar x (readLongBasic? false rest)
  | c :: rest =>
    if trimming && (isSpace c || c == '\n') then readLongBasic? true rest
    else if c = '"' ∧ rest.take 2 = ['"', '"'] then some (closeLong '"' (rest.drop 2))
    else if c == '\n' || isPlain c && c != '\\' then consChar c (readLongBasic? false rest)
    else none

/-- Reads the rest of a string between three single quotes at each end. -/
def readLongLiteral? : List Char → Option (List Char × List Char)
  | [] => none
  | '\r' :: '\n' :: rest => consChar '\n' (readLongLiteral? rest)
  | c :: rest =>
    if c = '\x27' ∧ rest.take 2 = ['\x27', '\x27'] then some (closeLong '\x27' (rest.drop 2))
    else if c == '\n' || isPlain c then consChar c (readLongLiteral? rest)
    else none

/-- The text of a long string after the line break that may follow its opening quotes. -/
def afterOpening (s : List Char) : List Char :=
  match s with
  | '\n' :: rest => rest
  | '\r' :: '\n' :: rest => rest
  | _ => s

/-- Reads a string, if the text starts with a quote. -/
def readString? (s : List Char) : Option (List Char × List Char) :=
  match s with
  | '"' :: '"' :: '"' :: rest => readLongBasic? false (afterOpening rest)
  | '\x27' :: '\x27' :: '\x27' :: rest => readLongLiteral? (afterOpening rest)
  | '"' :: rest => readBasic? rest
  | '\x27' :: rest => readLiteral? rest
  | _ => none

/-! ### Numbers -/

/-- The digits of a row in which single underscores may stand between digits. -/
def digitGroups? (isDigit : Char → Bool) : List Char → Option (List Char)
  | [] => none
  | [c] => if isDigit c then some [c] else none
  | c :: '_' :: rest => if isDigit c then (digitGroups? isDigit rest).map (c :: ·) else none
  | c :: rest => if isDigit c then (digitGroups? isDigit rest).map (c :: ·) else none

/-- The digits of a whole number, which starts with a zero only if it is one. -/
def wholeDigits? (s : List Char) : Option (List Char) := do
  let ds ← digitGroups? Char.isDigit s
  if ds.head? = some '0' ∧ s.length ≠ 1 then none else some ds

/-- A sign and the text after it. -/
def splitSign (s : List Char) : Bool × List Char :=
  match s with
  | '-' :: rest => (true, rest)
  | '+' :: rest => (false, rest)
  | _ => (false, s)

/-- Whether an integer fits into 64 bits. -/
def fitsInt64 (i : Int) : Bool := -(Nat.pow 2 63) ≤ i && i < Nat.pow 2 63

/-- An integer as a document. -/
def jsonOfInt (i : Int) : Json := .number ⟨i < 0, Nat.toDigits 10 i.natAbs, [], none⟩

/-- The number that a word in a base other than ten denotes. -/
def basedInteger? (base : Nat) (isDigit : Char → Bool) (s : List Char) : Option Json := do
  let n ← digitGroups? isDigit s >>= numberInBase? base
  if fitsInt64 n then some (jsonOfInt n) else none

/-- The integer that a word denotes. -/
def integer? (word : List Char) : Option Json :=
  match word with
  | '0' :: 'x' :: rest => basedInteger? 16 (fun c => (hexValue? c).isSome) rest
  | '0' :: 'o' :: rest => basedInteger? 8 (fun c => '0' ≤ c && c ≤ '7') rest
  | '0' :: 'b' :: rest => basedInteger? 2 (fun c => c == '0' || c == '1') rest
  | _ => do
    let (negative, s) := splitSign word
    let n : Int := digitsValue (← wholeDigits? s)
    let i := if negative then -n else n
    if fitsInt64 i then some (jsonOfInt i) else none

/-- The exponent of a number, after its `e`. -/
def exponent? (s : List Char) : Option (Bool × List Char) := do
  let (negative, s) := splitSign s
  some (negative, ← digitGroups? Char.isDigit s)

/-- The number with a fraction or an exponent that a word denotes. One that is too large is refused if it
is positive. -/
def float? (word : List Char) : Option Json := do
  let (negative, s) := splitSign word
  let isMark := fun c => c == 'e' || c == 'E'
  let mantissa := s.takeWhile (!isMark ·)
  let exponent ← match s.dropWhile (!isMark ·) with
    | [] => some none
    | _ :: rest => (exponent? rest).map some
  let whole ← wholeDigits? (mantissa.takeWhile (· ≠ '.'))
  let fraction ← match mantissa.dropWhile (· ≠ '.') with
    | [] => some []
    | _ :: rest => digitGroups? Char.isDigit rest
  if fraction = [] ∧ exponent = none then none
  else
    let power : Int := match exponent with
      | none => 0
      | some (negative, ds) => if negative then -(digitsValue ds : Int) else digitsValue ds
    let nearest := Binary64.ofScientific? negative (digitsValue (whole ++ fraction))
      (power - fraction.length)
    if nearest.isNone ∧ negative = false then none
    else some (.number ⟨negative, whole, fraction, exponent⟩)

/-- Whether a word is one of the numbers that have no digits. -/
def isSpecialFloat (word : List Char) : Bool :=
  let s := (splitSign word).2
  s == ['i', 'n', 'f'] || s == ['n', 'a', 'n']

/-! ### Moments -/

/-- The text after a calendar date. -/
def afterDate? (s : List Char) : Option (List Char) := do
  let (year, s) ← takeNumber? 4 4 s
  let (month, s) ← takeNumber? 2 2 (← expect? '-' s)
  let (day, s) ← takeNumber? 2 2 (← expect? '-' s)
  if (Date.mk year month day).isValid then some s else none

/-- The text after a time of day. -/
def afterTime? (s : List Char) : Option (List Char) := do
  let (hour, s) ← takeNumber? 2 2 s
  let (minute, s) ← takeNumber? 2 2 (← expect? ':' s)
  let (second, s) ← takeNumber? 2 2 (← expect? ':' s)
  if hour < 24 ∧ minute < 60 ∧ second ≤ 60 then
    match s with
    | '.' :: c :: rest => if c.isDigit then some (rest.dropWhile Char.isDigit) else none
    | _ => some s
  else none

/-- Whether a text is an offset from universal time. -/
def isOffset (s : List Char) : Bool :=
  match s with
  | ['Z'] | ['z'] => true
  | c :: rest =>
    (c == '+' || c == '-') && ((do
      let (hour, s) ← takeNumber? 2 2 rest
      let (minute, s) ← takeNumber? 2 2 (← expect? ':' s)
      some (s.isEmpty && decide (hour < 24 ∧ minute < 60)) : Option Bool)).getD false
  | [] => false

/-- Whether a text is a time of day, with or without an offset. -/
def isOffsetTime (s : List Char) : Bool :=
  match afterTime? s with
  | some [] => true
  | some rest => isOffset rest
  | none => false

/-- Whether a word is a time, a date, or both joined by a `T`. -/
def isMoment (word : List Char) : Bool :=
  afterTime? word == some [] ||
    match afterDate? word with
    | some [] => true
    | some (c :: rest) => (c == 'T' || c == 't') && isOffsetTime rest
    | none => false

/-! ### Words -/

/-- Whether a character can belong to a word. -/
def isWordChar (c : Char) : Bool := c.isAlphanum || c ∈ ['+', '-', '_', '.', ':']

/-- What a word denotes. Moments and numbers without digits, which no setting is, denote null. -/
def wordValue? (word : List Char) : Option Json :=
  if word = "true".toList then some (.bool true)
  else if word = "false".toList then some (.bool false)
  else if isSpecialFloat word || isMoment word then some .null
  else integer? word <|> float? word

/-- Reads a word. A date may be followed by a blank and a time. -/
def readWord? (s : List Char) : Option (Json × List Char) := do
  let word := s.takeWhile isWordChar
  let rest := s.dropWhile isWordChar
  let j ← wordValue? word
  match afterDate? word, rest with
  | some [], ' ' :: tail =>
    let time := tail.takeWhile isWordChar
    if (time.head?.map Char.isDigit).getD false then
      if isOffsetTime time then some (j, tail.dropWhile isWordChar) else none
    else some (j, rest)
  | _, _ => some (j, rest)

end EntityQuery.Toml

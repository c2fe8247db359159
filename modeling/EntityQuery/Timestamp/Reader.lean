import EntityQuery.Timestamp.Basic
import EntityQuery.Text.Blank

/-!
# Readers of timestamps

Three notations are read. The strict one is that of internet timestamps (`2024-03-01T12:00:00Z`). The
relaxed one has the same parts, but lets fields be shorter, blanks stand between them and `UTC` be the
offset. A calendar date (`2024-03-01`) stands for the beginning of that day in universal time.
-/

namespace EntityQuery.Timestamp

open Text

/-- The nanoseconds that a row of digits after the point denotes. Digits beyond the ninth are dropped. -/
def readFraction? (s : List Char) : Option (Nat × List Char) :=
  match s with
  | '.' :: rest =>
    (takeDigits? 1 9 rest).map fun (ds, tail) =>
      (digitsValue ds * Nat.pow 10 (9 - ds.length), tail.dropWhile Char.isDigit)
  | _ => some (0, s)

/-- The minus sign, which may also be the mathematical one. -/
def isMinus (c : Char) : Bool := c == '-' || c == '\u2212'

/-- Reads an offset in minutes: `Z`, or a sign, two digits for the hours, what `separator` takes, and
two digits for the minutes. An offset is less than a day. -/
def readOffset? (separator : List Char → Option (List Char)) (s : List Char) :
    Option (Int × List Char) :=
  match s with
  | [] => none
  | c :: rest =>
    if c = 'Z' ∨ c = 'z' then some (0, rest)
    else if c = '+' ∨ isMinus c then do
      let (hours, rest) ← takeNumber? 2 2 rest
      let (minutes, rest) ← takeNumber? 2 2 (← separator rest)
      if hours < 24 ∧ minutes < 60 then
        let offset : Int := (hours * 60 + minutes : Nat)
        some (if c = '+' then offset else -offset, rest)
      else none
    else none

/-- Whether a character separates a date from a time. -/
def isDateTimeSeparator (c : Char) : Bool := c == 'T' || c == 't' || c == ' '

/-- Reads the strict notation. -/
def ofStrict? (s : List Char) : Option Timestamp := do
  let (year, s) ← takeNumber? 4 4 s
  let (month, s) ← takeNumber? 2 2 (← expect? '-' s)
  let (day, s) ← takeNumber? 2 2 (← expect? '-' s)
  match s with
  | [] => none
  | c :: s =>
    if isDateTimeSeparator c then
      let (hour, s) ← takeNumber? 2 2 s
      let (minute, s) ← takeNumber? 2 2 (← expect? ':' s)
      let (second, s) ← takeNumber? 2 2 (← expect? ':' s)
      let (nanos, s) ← readFraction? s
      let (offset, s) ← readOffset? (expect? ':') s
      if s = [] then ofLocal? ⟨⟨year, month, day⟩, hour, minute, second, nanos, offset⟩ else none
    else none

/-- A number of at most two digits, after blanks. -/
def readShort? (s : List Char) : Option (Nat × List Char) := takeNumber? 1 2 (trimStart s)

/-- A year of at most four digits, or of any number of digits behind a sign, after blanks. -/
def readYear? (s : List Char) : Option (Int × List Char) :=
  match trimStart s with
  | '-' :: rest => (takeNumber? 1 rest.length rest).map fun (n, rest) => (-(n : Int), rest)
  | '+' :: rest => (takeNumber? 1 rest.length rest).map fun (n, rest) => ((n : Int), rest)
  | s => (takeNumber? 1 4 s).map fun (n, rest) => ((n : Int), rest)

/-- A date whose fields need no leading zeros. `blanks` says whether blanks may stand before a hyphen. -/
def readDate? (blanks : Bool) (s : List Char) : Option (Date × List Char) := do
  let gap := fun s => if blanks then trimStart s else s
  let (year, s) ← readYear? s
  let (month, s) ← readShort? (← expect? '-' (gap s))
  let (day, s) ← readShort? (← expect? '-' (gap s))
  some (⟨year, month, day⟩, s)

/-- Reads an offset after blanks, `UTC` among the spellings of zero. -/
def readRelaxedOffset? (s : List Char) : Option (Int × List Char) :=
  let s := trimStart s
  if (s.take 3).map Char.toUpper = ['U', 'T', 'C'] then some (0, s.drop 3)
  else readOffset? (fun s => some (s.dropWhile fun c => c == ':' || isBlank c)) s

/-- Reads the relaxed notation. -/
def ofRelaxed? (s : List Char) : Option Timestamp := do
  let (date, s) ← readDate? true s
  match s with
  | [] => none
  | c :: s =>
    if isDateTimeSeparator c then
      let (hour, s) ← readShort? s
      let (minute, s) ← readShort? (← expect? ':' (trimStart s))
      let (second, s) ← readShort? (← expect? ':' (trimStart s))
      let (nanos, s) ← readFraction? s
      let (offset, s) ← readRelaxedOffset? s
      if trimStart s = [] then ofLocal? ⟨date, hour, minute, second, nanos, offset⟩ else none
    else none

/-- Reads a calendar date. -/
def ofDate? (s : List Char) : Option Timestamp := do
  let (date, s) ← readDate? false s
  if s = [] then ofLocal? ⟨date, 0, 0, 0, 0, 0⟩ else none

/-- Reads a literal: a strict timestamp or a calendar date. -/
def ofLiteral? (s : List Char) : Option Timestamp := ofStrict? s <|> ofDate? s

end EntityQuery.Timestamp

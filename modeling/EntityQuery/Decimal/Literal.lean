import EntityQuery.Decimal.Basic
import EntityQuery.Text.Digits

/-!
# Decimal literals

A literal is a sign, digits with at most one point among them, and perhaps an exponent. An underscore
may follow any digit. Digits after the point that do not fit are rounded away, half up in magnitude;
digits before the point that do not fit make the literal invalid. A zero that is written, or that is left
of the digits after the point, has no sign; one that is left of an exponent keeps that of the number.
-/

namespace EntityQuery.Decimal

open Text

/-- The digits of a literal, in front of the point and behind it. -/
structure Digits where
  whole : List Char
  fraction : List Char

/-- Reads digits, underscores and a point up to the end of the text. `pointed` says that the point has
been read, `started` that a digit has. -/
def readDigits? (pointed started : Bool) : List Char → Option Digits
  | [] => if started then some ⟨[], []⟩ else none
  | c :: rest =>
    if c.isDigit then
      (readDigits? pointed true rest).map fun d =>
        if pointed then { d with fraction := c :: d.fraction } else { d with whole := c :: d.whole }
    else if c = '.' ∧ pointed = false then readDigits? true started rest
    else if c = '_' ∧ started then readDigits? pointed started rest
    else none

/-- Extends a coefficient of the given scale by the digits of a fraction. The first digit that does not
fit rounds the number, and a coefficient that outgrows its bound by that gives up its last digit. -/
def appendFraction? (coefficient scale : Nat) : List Char → Option (Nat × Nat)
  | [] => some (coefficient, scale)
  | c :: rest =>
    let next := coefficient * 10 + digitValue c
    if scale < maxScale ∧ next < coefficientBound then appendFraction? next (scale + 1) rest
    else if digitValue c < 5 then some (coefficient, scale)
    else if coefficient + 1 < coefficientBound then some (coefficient + 1, scale)
    else if scale = 0 then none
    else some ((coefficient + 5) / 10, scale - 1)

/-- Splits the sign from a literal. -/
def splitSign : List Char → Bool × List Char
  | '-' :: rest => (true, rest)
  | '+' :: rest => (false, rest)
  | s => (false, s)

/-- Reads a literal without an exponent. Zero has no sign. -/
def ofPlain? (s : List Char) : Option Decimal := do
  let (negative, body) := splitSign s
  let d ← readDigits? false false body
  let whole := digitsValue d.whole
  if coefficientBound ≤ whole then none
  else
    let (coefficient, scale) ← appendFraction? whole 0 d.fraction
    ofParts? (negative && coefficient != 0) coefficient scale

/-- An exponent: its sign, and its digits, which may have a plus sign of their own. -/
def readExponent? (s : List Char) : Option (Bool × Nat) :=
  let (negative, s) := match s with
    | '-' :: rest => (true, rest)
    | s => (false, s)
  let ds := match s with
    | '+' :: rest => rest
    | s => s
  if ds ≠ [] ∧ ds.all Char.isDigit then some (negative, digitsValue ds) else none

/-- The quotient by a power of ten, rounded to the nearest whole number, a half away from zero. -/
def roundAt (n places : Nat) : Nat := (n + Nat.pow 10 places / 2) / Nat.pow 10 places

/-- The number divided by `10 ^ n`. Where the scale would pass its bound, the digits behind the last
possible place are rounded away. The sign stays, even if nothing else does. -/
def shiftDown? (d : Decimal) (n : Nat) : Option Decimal :=
  if maxScale < n then none
  else if maxScale < d.scale + n then
    ofParts? d.negative (roundAt d.coefficient (d.scale + n - maxScale)) maxScale
  else ofParts? d.negative d.coefficient (d.scale + n)

/-- The number multiplied by `10 ^ n`, as a whole number once all its places are used up. -/
def shiftUp? (d : Decimal) (n : Nat) : Option Decimal :=
  if n ≤ d.scale then ofParts? d.negative d.coefficient (d.scale - n)
  else if maxScale < n then none
  else ofParts? d.negative (d.coefficient * Nat.pow 10 (n - d.scale)) 0

/-- Whether a character separates a number from its exponent. -/
def isExponentMark (c : Char) : Bool := c == 'e' || c == 'E'

/-- Reads a literal whose exponent starts at the first exponent mark. -/
def ofScientific? (s : List Char) : Option Decimal := do
  match s.dropWhile (!isExponentMark ·) with
  | [] => none
  | _ :: tail =>
    let d ← ofPlain? (s.takeWhile (!isExponentMark ·))
    let (negative, n) ← readExponent? tail
    if negative then d.shiftDown? n else d.shiftUp? n

/-- Reads a literal with or without an exponent. -/
def ofLiteral? (s : List Char) : Option Decimal := ofPlain? s <|> ofScientific? s

end EntityQuery.Decimal

/-!
# Decimal numbers

A decimal number is a sign and a natural coefficient, divided by a power of ten. The coefficient has 96
bits and the power, the scale, is at most 28. Numbers of different scale can be equal: the order is that
of the rational values, and `1.0` is only written differently from `1.00`. So is `-0.0` from `0.0`: a
zero has a sign if rounding made it from a negative number.
-/

namespace EntityQuery

/-- The largest scale. -/
def maxScale : Nat := 28

/-- The first natural number that is too large for a coefficient. -/
def coefficientBound : Nat := Nat.pow 2 96

/-- The number `± coefficient / 10 ^ scale`. -/
structure Decimal where
  negative : Bool
  coefficient : Nat
  scale : Nat
  coefficient_lt : coefficient < coefficientBound
  scale_le : scale ≤ maxScale
  deriving DecidableEq

namespace Decimal

/-- The number with this sign, coefficient and scale, if it is in range. -/
def ofParts? (negative : Bool) (coefficient scale : Nat) : Option Decimal :=
  if h : coefficient < coefficientBound ∧ scale ≤ maxScale then
    some ⟨negative, coefficient, scale, h.1, h.2⟩
  else none

/-- Zero with no digits after the point. -/
def zero : Decimal := ⟨false, 0, 0, by decide, by decide⟩

/-- A 64-bit integer as a decimal number. -/
def ofInt64 (i : Int64) : Decimal :=
  ⟨i.toInt < 0, i.toInt.natAbs, 0, by
    have h1 := i.le_toInt
    have h2 := i.toInt_lt
    simp only [coefficientBound, Nat.pow_eq]
    omega, by decide⟩

/-- The coefficient with its sign. -/
def signed (d : Decimal) : Int := if d.negative then -d.coefficient else d.coefficient

/-- The order of two decimals is that of their values, whatever their scales. -/
def compare (a b : Decimal) : Ordering :=
  Ord.compare (a.signed * Nat.pow 10 b.scale) (b.signed * Nat.pow 10 a.scale)

/-- Decimals are ordered by what they denote. -/
instance : Ord Decimal := ⟨compare⟩

/-- Whether a decimal denotes zero, of either sign. -/
def isZero (d : Decimal) : Bool := d.coefficient == 0

/-- The digits of a natural number with a point before the last `scale` of them. -/
def digits (n scale : Nat) : String :=
  if scale = 0 then toString n
  else
    let frac := toString (n % Nat.pow 10 scale)
    toString (n / Nat.pow 10 scale) ++ "." ++ String.ofList (List.replicate (scale - frac.length) '0') ++ frac

/-- Every decimal is written with as many digits after the point as its scale says. -/
def toText (d : Decimal) : String :=
  (if d.negative then "-" else "") ++ digits d.coefficient d.scale

@[simp] theorem ofParts?_eq_none_iff {negative : Bool} {c s : Nat} :
    ofParts? negative c s = none ↔ coefficientBound ≤ c ∨ maxScale < s := by
  unfold ofParts?
  split <;> simp_all <;> omega

@[simp] theorem scale_ofInt64 (i : Int64) : (ofInt64 i).scale = 0 := rfl

@[simp] theorem signed_ofInt64 (i : Int64) : (ofInt64 i).signed = i.toInt := by
  simp only [signed, ofInt64, decide_eq_true_eq]
  split <;> omega

theorem isZero_iff_signed_eq_zero (d : Decimal) : d.isZero = true ↔ d.signed = 0 := by
  simp only [isZero, signed, beq_iff_eq]
  split <;> omega

end Decimal

end EntityQuery

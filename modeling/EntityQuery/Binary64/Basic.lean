/-!
# Binary floating point

The finite numbers of 64-bit binary floating point, with arithmetic defined by what it means: compute
exactly, then take the nearest representable number, of two equally near the one with an even mantissa.
-/

namespace EntityQuery

/-- The number `± mantissa * 2 ^ exponent`. -/
structure Binary64 where
  negative : Bool
  mantissa : Nat
  exponent : Int
  deriving DecidableEq

namespace Binary64

/-- The mantissas of numbers that are not very small have this many bits. -/
def precision : Nat := 53

/-- The exponent of the smallest numbers. -/
def leastExponent : Int := -1074

/-- The exponent of the largest numbers. -/
def greatestExponent : Int := 971

/-- Zero, which has a sign. -/
def zero (negative : Bool) : Binary64 := ⟨negative, 0, leastExponent⟩

/-- Whether a float is zero, of either sign. -/
def isZero (b : Binary64) : Bool := b.mantissa == 0

/-- The float with the other sign. -/
def neg (b : Binary64) : Binary64 := { b with negative := !b.negative }

/-- `base ^ e` for a power that is not negative, and one otherwise. -/
def powPos (base : Nat) (e : Int) : Nat := base.pow e.toNat

/-- The numerator of the magnitude. -/
def num (b : Binary64) : Nat := b.mantissa * powPos 2 b.exponent

/-- The denominator of the magnitude. -/
def den (b : Binary64) : Nat := powPos 2 (-b.exponent)

/-- The quotient rounded to the nearest natural number, of two equally near the even one. -/
def divNearestEven (n d : Nat) : Nat :=
  let q := n / d
  let r := n % d
  if 2 * r < d then q
  else if d < 2 * r then q + 1
  else q + q % 2

/-- The exponent at which `n / d` has a mantissa of full length, or the least one. -/
def exponentOf (n d : Nat) : Int :=
  let k : Int := (n.log2 : Int) - d.log2
  let top := if d * powPos 2 k ≤ n * powPos 2 (-k) then k else k - 1
  max (top - (precision - 1)) leastExponent

/-- The representable number nearest to `n / d`, unless it is too large. -/
def ofRatio? (negative : Bool) (n d : Nat) : Option Binary64 :=
  if n = 0 then some (zero negative)
  else
    let e := exponentOf n d
    let m := divNearestEven (n * powPos 2 (-e)) (d * powPos 2 e)
    let r : Binary64 := if m = Nat.pow 2 precision then ⟨negative, Nat.pow 2 (precision - 1), e + 1⟩ else ⟨negative, m, e⟩
    if greatestExponent < r.exponent then none else some r

/-- The float nearest to a natural number, if that is not too large. -/
def ofNat? (n : Nat) : Option Binary64 := ofRatio? false n 1

/-- Every number of more digits before the point is too large. -/
def mostDigits : Int := 309

/-- Every number with more zeros after the point is nearest to zero. -/
def mostZeros : Int := 324

/-- The representable number nearest to `± n * 10 ^ e`, unless it is too large. Numbers far out of range
are told by their digits alone, so that no huge power is computed. -/
def ofScientific? (negative : Bool) (n : Nat) (e : Int) : Option Binary64 :=
  let places := (Nat.toDigits 10 n).length + e
  if n = 0 ∨ places < -mostZeros then some (zero negative)
  else if mostDigits < places then none
  else ofRatio? negative (n * powPos 10 e) (powPos 10 (-e))

/-- The product, if it is not too large. -/
def mul? (a b : Binary64) : Option Binary64 :=
  ofRatio? (a.negative != b.negative) (a.num * b.num) (a.den * b.den)

/-- The quotient by a number other than zero. -/
def div? (a b : Binary64) : Option Binary64 :=
  if b.isZero then none else ofRatio? (a.negative != b.negative) (a.num * b.den) (a.den * b.num)

/-- The sum of two magnitudes. -/
def addMagnitudes? (a b : Binary64) : Option Binary64 :=
  ofRatio? false (a.num * b.den + b.num * a.den) (a.den * b.den)

/-- The magnitude rounded to a whole number, a half away from zero. -/
def roundMagnitude? (a : Binary64) : Option Binary64 :=
  ofNat? ((2 * a.num + a.den) / (2 * a.den))

end Binary64

end EntityQuery

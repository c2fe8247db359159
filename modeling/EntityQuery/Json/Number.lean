import EntityQuery.Binary64.Shortest
import EntityQuery.Json.Reader

/-!
# What numbers mean

A number without fraction and exponent is a whole number if it fits into 64 bits, with or without a
sign. Any other is a binary number: as many digits as fit into 64 bits, scaled by a power of ten in one
step, which rounds once more.
-/

namespace EntityQuery.Json.Number

open Text (digitValue digitsValue)

/-- The first number that is too large for 64 bits without a sign. -/
def unsignedBound : Nat := Nat.pow 2 64

/-- The first magnitude that is too large for a negative number of 64 bits. -/
def signedBound : Nat := Nat.pow 2 63

/-- The whole number that a number is, if it is one. A negative zero is not. -/
def integer? (n : Number) : Option Int :=
  if n.fraction = [] ∧ n.exponent = none then
    let m := digitsValue n.whole
    if n.negative then
      if 0 < m ∧ m ≤ signedBound then some (-(m : Int)) else none
    else if m < unsignedBound then some m
    else none
  else none

/-- Extends a number by digits as long as it fits into 64 bits, and gives back the digits left. -/
def accumulate (n : Nat) : List Char → Nat × List Char
  | [] => (n, [])
  | c :: rest =>
    let next := n * 10 + digitValue c
    if next < unsignedBound then accumulate next rest else (n, c :: rest)

/-- The largest power of ten that is a binary number. -/
def greatestPower : Nat := 308

/-- A power of ten in binary, for powers up to the largest. -/
def power? (n : Nat) : Option Binary64 := Binary64.ofNat? (Nat.pow 10 n)

/-- The binary number times `10 ^ e`, unless it is too large. Powers below the least one are reached in
steps of the greatest power. -/
def scale? (b : Binary64) (e : Int) : Option Binary64 :=
  if 0 ≤ e then
    if e ≤ greatestPower then power? e.toNat >>= b.mul?
    else if b.isZero then some b
    else none
  else if e < -(greatestPower : Int) then
    if b.isZero then some b
    else do
      let lower ← (← power? greatestPower) |> b.div?
      scale? lower (e + greatestPower)
  else power? (-e).toNat >>= b.div?
termination_by e.natAbs
decreasing_by
  simp only [greatestPower] at *
  omega

/-- The first number that is too large for an exponent. -/
def exponentBound : Nat := Nat.pow 2 31

/-- The least exponent. -/
def saturate (e : Int) : Int := max (-(exponentBound : Int)) (min e (exponentBound - 1))

/-- The binary number that a number denotes, unless it is too large. -/
def binary? (n : Number) : Option Binary64 := do
  let (whole, dropped) := accumulate 0 n.whole
  let (mantissa, left) := accumulate whole n.fraction
  let places : Int := dropped.length - (n.fraction.length - left.length : Nat)
  let signed := fun (b : Binary64) => if n.negative then b.neg else b
  match n.exponent with
  | none => (scale? (← Binary64.ofNat? mantissa) places).map signed
  | some (negative, ds) =>
    let e : Int := digitsValue ds
    if exponentBound ≤ digitsValue ds then
      if mantissa ≠ 0 ∧ negative = false then none else some (signed (.zero false))
    else
      let e := saturate (if negative then places - e else places + e)
      (scale? (← Binary64.ofNat? mantissa) e).map signed

end EntityQuery.Json.Number

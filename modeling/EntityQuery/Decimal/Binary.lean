import EntityQuery.Decimal.Basic
import EntityQuery.Binary64.Basic

/-!
# Decimals in binary

The binary number that stands for a decimal. Whole part and fraction are converted by themselves, and
their sum is rounded once more to the places of the decimal.
-/

namespace EntityQuery.Decimal

/-- The magnitude of a decimal in binary. -/
def magnitude? (n scale : Nat) : Option Binary64 := do
  if scale = 0 then Binary64.ofNat? n
  else
    let unit ← Binary64.ofNat? (Nat.pow 10 scale)
    let whole ← Binary64.ofNat? (n / Nat.pow 10 scale)
    let fraction ← (← Binary64.ofNat? (n % Nat.pow 10 scale)).div? unit
    if fraction.isZero then some whole
    else
      let sum ← whole.addMagnitudes? fraction
      (← (← sum.mul? unit).roundMagnitude?).div? unit

/-- A decimal in binary. All decimals are in range, so the number is never missing. -/
def toBinary (d : Decimal) : Binary64 :=
  let b := (magnitude? d.coefficient d.scale).getD (.zero false)
  if d.negative then b.neg else b

end EntityQuery.Decimal

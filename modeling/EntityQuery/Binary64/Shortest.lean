import EntityQuery.Binary64.Basic

/-!
# Shortest decimal text

A binary number is written with the fewest decimal digits that read back as the same number, and of the
texts with that many digits with the nearest. Every real number between the midpoints to its two
neighbours reads back, and so do the midpoints themselves if the mantissa is even.
-/

namespace EntityQuery.Binary64

/-- The digits `digits` as a fraction `0.digits`, times `10 ^ point`. -/
structure Digits where
  digits : List Char
  point : Int

/-- Which of two equally near decimal numbers is taken. -/
inductive Tie where
  /-- The one with an even last digit. -/
  | even
  /-- The one of larger magnitude. -/
  | up

/-- How `a * 10 ^ p` compares with `b * 2 ^ q`. -/
def compareScaled (a : Nat) (p : Int) (b : Nat) (q : Int) : Ordering :=
  compare (a * powPos 10 p * powPos 2 (-q)) (b * powPos 2 q * powPos 10 (-p))

/-- Whether `c * 10 ^ p` reads back as `b`. -/
def readsBack (b : Binary64) (c : Nat) (p : Int) : Bool :=
  let narrow := b.mantissa == Nat.pow 2 (precision - 1) && decide (leastExponent < b.exponent)
  let low := compareScaled c p (4 * b.mantissa - if narrow then 1 else 2) (b.exponent - 2)
  let high := compareScaled c p (4 * b.mantissa + 2) (b.exponent - 2)
  if b.mantissa % 2 = 0 then low.isGE && high.isLE else low.isGT && high.isLT

/-- The power of ten of the leading digit of `n / d`. -/
def magnitude (n d : Nat) : Int :=
  if d ≤ n then ((Nat.toDigits 10 (n / d)).length : Int) - 1
  else -((Nat.toDigits 10 ((d + n - 1) / n - 1)).length : Int)

/-- Of the two multiples of `10 ^ p` next to `b` the nearer one that reads back. -/
def onGrid? (tie : Tie) (b : Binary64) (p : Int) : Option Nat :=
  let n := b.num * powPos 10 (-p)
  let d := b.den * powPos 10 p
  let below := n / d
  let rest := 2 * (n % d)
  let above := below + 1
  let upNearer := match tie with
    | .even => decide (d < rest) || (rest == d && below % 2 == 1)
    | .up => decide (d ≤ rest)
  match readsBack b below p, readsBack b above p with
  | true, true => some (if upNearer then above else below)
  | true, false => some below
  | false, true => some above
  | false, false => none

/-- The shortest digits of the magnitude of a number other than zero. Seventeen always suffice. -/
def shortest (tie : Tie) (b : Binary64) : Digits :=
  let top := magnitude b.num b.den
  let found := (List.range 17).findSome? fun (i : Nat) =>
    (onGrid? tie b (top - i)).map fun c => (c, top - i)
  let (c, p) := found.getD (0, 0)
  let ds := Nat.toDigits 10 c
  ⟨(ds.reverse.dropWhile (· = '0')).reverse, p + ds.length⟩

/-- How a number is laid out around its digits. -/
structure Layout where
  tie : Tie
  /-- Whether a number whose leading digit stands at this power of ten is written without exponent. -/
  positional : Int → Bool
  /-- Whether a whole number is written with a zero after the point. -/
  pointZero : Bool
  /-- Whether a positive exponent is written with its sign. -/
  plusSign : Bool

/-- Digits around a point, without exponent. -/
def positionalText (pointZero : Bool) (d : Digits) : List Char :=
  let whole := if d.point ≤ 0 then ['0'] else
    d.digits.take d.point.toNat ++ List.replicate (d.point.toNat - d.digits.length) '0'
  let fraction := List.replicate (-d.point).toNat '0' ++ d.digits.drop d.point.toNat
  if d.digits.length ≤ d.point then whole ++ (if pointZero then ['.', '0'] else [])
  else whole ++ '.' :: fraction

/-- One digit, a point, the other digits and the exponent. -/
def exponentText (plusSign : Bool) (d : Digits) : List Char :=
  let power := d.point - 1
  let sign := if power < 0 then ['-'] else if plusSign then ['+'] else []
  let point := if d.digits.length ≤ 1 then [] else '.' :: d.digits.drop 1
  d.digits.take 1 ++ point ++ 'e' :: sign ++ Nat.toDigits 10 power.natAbs

/-- A number in the given layout. -/
def toText (l : Layout) (b : Binary64) : List Char :=
  let sign := if b.negative then ['-'] else []
  if b.isZero then sign ++ (if l.pointZero then ['0', '.', '0'] else ['0'])
  else
    let d := shortest l.tie b
    sign ++ if l.positional (d.point - 1) then positionalText l.pointZero d
      else exponentText l.plusSign d

/-- All digits around a point, and no point in a whole number. -/
def Layout.plain : Layout := ⟨.up, fun _ => true, false, false⟩

/-- Numbers as messages show them: always a point, and an exponent outside of 10⁻⁴ to 10¹⁶. -/
def Layout.display : Layout := ⟨.up, fun p => -4 ≤ p ∧ p < 16, true, false⟩

end EntityQuery.Binary64

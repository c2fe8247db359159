/-!
# Hexadecimal digits

Code points and identifiers are written with the digits `0` to `9` and `a` to `f`, which may be capital
where they are read.
-/

namespace EntityQuery.Text

/-- The value of a hexadecimal digit of either case. -/
def hexValue? (c : Char) : Option Nat :=
  if '0' ≤ c ∧ c ≤ '9' then some (c.toNat - '0'.toNat)
  else if 'a' ≤ c ∧ c ≤ 'f' then some (c.toNat - 'a'.toNat + 10)
  else if 'A' ≤ c ∧ c ≤ 'F' then some (c.toNat - 'A'.toNat + 10)
  else none

/-- The number that a row of digits denotes in a base of at most sixteen. -/
def numberInBase? (base : Nat) (s : List Char) : Option Nat :=
  s.foldlM (fun n c => (hexValue? c).map (n * base + ·)) 0

/-- The number that a row of hexadecimal digits denotes. -/
def hexNumber? (s : List Char) : Option Nat := numberInBase? 16 s

/-- The last `n` hexadecimal digits of a number, in lower case. -/
def hexDigits (n k : Nat) : List Char :=
  match n with
  | 0 => []
  | n + 1 => hexDigits n (k / 16) ++ [Nat.digitChar (k % 16)]

@[simp] theorem length_hexDigits (n k : Nat) : (hexDigits n k).length = n := by
  induction n generalizing k with
  | zero => rfl
  | succ n ih => simp [hexDigits, ih]

end EntityQuery.Text

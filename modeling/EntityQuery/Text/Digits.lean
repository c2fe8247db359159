/-!
# Digits

Readers of numbers take ASCII digits from the front of a text and give back the rest.
-/

namespace EntityQuery.Text

/-- The value of an ASCII digit. -/
def digitValue (c : Char) : Nat := c.toNat - '0'.toNat

/-- The number that a row of digits denotes. -/
def digitsValue (ds : List Char) : Nat := ds.foldl (fun n c => n * 10 + digitValue c) 0

/-- Between `least` and `most` digits at the front of a text, as many as there are. -/
def takeDigits? (least most : Nat) (s : List Char) : Option (List Char × List Char) :=
  let ds := (s.take most).takeWhile Char.isDigit
  if least ≤ ds.length then some (ds, s.drop ds.length) else none

/-- The number denoted by between `least` and `most` digits at the front of a text. -/
def takeNumber? (least most : Nat) (s : List Char) : Option (Nat × List Char) :=
  (takeDigits? least most s).map fun (ds, rest) => (digitsValue ds, rest)

/-- The text after `c`, if it starts with `c`. -/
def expect? (c : Char) : List Char → Option (List Char)
  | d :: rest => if d = c then some rest else none
  | [] => none

/-- A natural number written with at least `width` digits. -/
def padded (width n : Nat) : List Char :=
  let ds := Nat.toDigits 10 n
  List.replicate (width - ds.length) '0' ++ ds

@[simp] theorem expect?_cons_self (c : Char) (s : List Char) : expect? c (c :: s) = some s := by
  simp [expect?]

/-- What is taken and what is left make up the text. -/
theorem takeDigits?_append {least most : Nat} {s ds rest : List Char}
    (h : takeDigits? least most s = some (ds, rest)) : ds ++ rest = s := by
  dsimp only [takeDigits?] at h
  split at h
  · obtain ⟨rfl, rfl⟩ := Prod.mk.inj (Option.some.inj h)
    have hp : (s.take most).takeWhile Char.isDigit <+: s :=
      ( List.takeWhile_prefix _).trans ( List.take_prefix _ _)
    exact List.prefix_iff_eq_append.mp hp
  · cases h

end EntityQuery.Text

import EntityQuery.Value.Basic

/-!
# Stored fields

How a field of a record holds the values of one family, and what its property then reads: one value,
one or none, or several. A set reads as the list of its distinct members in ascending order. Values that
are equal may still be written differently, and which of them is the member is up to the kind of set.
-/

namespace EntityQuery

/-- How a field holds its values. -/
inductive Storage where
  | one
  | atMostOne
  | sequence
  /-- Members in no order. What equals a member is not added. -/
  | set
  /-- Members in order. What equals a member replaces it. -/
  | sortedSet
  deriving DecidableEq, Repr

namespace Storage

/-- The shape of a property that is stored in this way. -/
def shape : Storage → Shape
  | one => .scalar
  | atMostOne => .optional
  | sequence | set | sortedSet => .collection

/-- The type of a property that is stored in this way. -/
def propertyType (s : Storage) (f : Family) : PropertyType := ⟨f, s.shape⟩

/-- Drops each value that equals the value after it. -/
def dropRepeats : List Value → List Value
  | [] => []
  | [v] => [v]
  | v :: w :: rest => if v == w then dropRepeats (w :: rest) else v :: dropRepeats (w :: rest)

/-- The values in ascending order, equal ones in the order they had. -/
def ascending (vs : List Value) : List Value := vs.mergeSort fun a b => (a.compareTotal b).isLE

/-- The distinct values in ascending order, of equal ones the last. -/
def lastDistinct (vs : List Value) : List Value := dropRepeats (ascending vs)

/-- The distinct values in ascending order, of equal ones the first. -/
def firstDistinct (vs : List Value) : List Value := (dropRepeats (ascending vs).reverse).reverse

/-- What the property reads where the field holds these values. -/
def read (s : Storage) (vs : List Value) : Value :=
  match s with
  | one | atMostOne => vs.headD .null
  | sequence => .list vs
  | set => .list (firstDistinct vs)
  | sortedSet => .list (lastDistinct vs)

end Storage

end EntityQuery

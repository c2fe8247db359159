/-!
# Types of properties

A property has a family, which says what its values are, and a shape, which says how many it holds.
-/

namespace EntityQuery

/-- What the values of a property are. -/
inductive Family where
  | string
  | integer
  | decimal
  | boolean
  | dateTime
  | uuid
  deriving DecidableEq, Repr

namespace Family

/-- The family as it is transmitted and shown. -/
def name : Family → String
  | string => "String"
  | integer => "Integer"
  | decimal => "Decimal"
  | boolean => "Boolean"
  | dateTime => "DateTime"
  | uuid => "Uuid"

/-- Whether before and after make sense of its values in requests. -/
def isOrdered : Family → Bool
  | integer | decimal | dateTime => true
  | _ => false

/-- Whether its values have substrings. -/
def isTextual : Family → Bool
  | string => true
  | _ => false

end Family

/-- How many values a property holds. -/
inductive Shape where
  | scalar
  | optional
  | collection
  deriving DecidableEq, Repr

/-- The name of a shape. -/
def Shape.name : Shape → String
  | scalar => "scalar"
  | optional => "optional"
  | collection => "collection"

/-- The type of a property. -/
structure PropertyType where
  family : Family
  shape : Shape
  deriving DecidableEq, Repr

namespace PropertyType

/-- Whether a property holds a collection. -/
def isCollection (t : PropertyType) : Bool := t.shape == .collection

/-- A type as it is shown: `Integer`, `Integer?` or `[Integer]`. -/
def toText (t : PropertyType) : String :=
  match t.shape with
  | .scalar => t.family.name
  | .optional => t.family.name ++ "?"
  | .collection => "[" ++ t.family.name ++ "]"

end PropertyType

/-- How strings are compared by equality and substring tests. -/
inductive CaseMode where
  /-- Character by character. -/
  | ordinal
  /-- After both sides are turned into lower case. -/
  | ignoreCase
  deriving DecidableEq, Repr

/-- The name of a mode. -/
def CaseMode.name : CaseMode → String
  | ordinal => "ordinal"
  | ignoreCase => "ignore_case"

end EntityQuery

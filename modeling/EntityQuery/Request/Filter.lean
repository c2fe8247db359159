import EntityQuery.Value.Family

/-!
# Filters

A filter of a request names a property, an operator and literals, and declares the family of the
literals. What operators apply to which properties, and how many literals they take, is said here.
-/

namespace EntityQuery

/-- What a filter asks of a property. -/
inductive FilterOperator where
  | equals
  | notEqual
  | contains
  | startsWith
  | endsWith
  | notEmpty
  | lessThan
  | greaterThan
  | between
  | includeAny
  | includeEquals
  | includeNone
  deriving DecidableEq, Repr

/-- How many literals an operator takes. -/
inductive Arity where
  /-- Literals are not looked at. -/
  | ignored
  | exactly (n : Nat)
  | any
  deriving DecidableEq, Repr

/-- How many literals there have to be, for people. -/
def Arity.toText : Arity → String
  | ignored => "no"
  | exactly n => s!"exactly {n}"
  | any => "any number of"

namespace FilterOperator

/-- The operator as it is transmitted and shown. -/
def name : FilterOperator → String
  | equals => "Equals"
  | notEqual => "NotEqual"
  | contains => "Contains"
  | startsWith => "StartsWith"
  | endsWith => "EndsWith"
  | notEmpty => "NotEmpty"
  | lessThan => "LessThan"
  | greaterThan => "GreaterThan"
  | between => "Between"
  | includeAny => "IncludeAny"
  | includeEquals => "IncludeEquals"
  | includeNone => "IncludeNone"

/-- All operators. -/
def all : List FilterOperator :=
  [equals, notEqual, contains, startsWith, endsWith, notEmpty, lessThan, greaterThan, between,
    includeAny, includeEquals, includeNone]

/-- How many literals an operator takes. -/
def arity : FilterOperator → Arity
  | notEmpty => .ignored
  | between => .exactly 2
  | includeAny | includeEquals | includeNone => .any
  | _ => .exactly 1

/-- Whether the operator compares sets of members. -/
def isSetOperator : FilterOperator → Bool
  | includeAny | includeEquals | includeNone => true
  | _ => false

/-- Whether the operator makes sense of a property. -/
def appliesTo (op : FilterOperator) (t : PropertyType) : Bool :=
  if t.isCollection then op.isSetOperator || op == notEmpty
  else
    match op with
    | contains | startsWith | endsWith => t.family.isTextual
    | lessThan | greaterThan | between => t.family.isOrdered
    | _ => true

theorem mem_all (op : FilterOperator) : op ∈ all := by cases op <;> decide

end FilterOperator

/-- A filter as it is requested. -/
structure FilterSpec where
  propertyName : String
  declaredType : Family
  operator : FilterOperator
  value : Option String := none
  values : List String := []
  deriving DecidableEq

namespace FilterSpec

/-- All literals, the single one first. -/
def literals (f : FilterSpec) : List String := f.value.toList ++ f.values

/-- The filter with one literal instead of the one it had. -/
def withValue (f : FilterSpec) (s : String) : FilterSpec := { f with value := some s }

/-- The filter with a list of literals instead of the one it had. -/
def withValues (f : FilterSpec) (ss : List String) : FilterSpec := { f with values := ss }

end FilterSpec

end EntityQuery

import EntityQuery.Predicate.Tree

/-!
# Building conditions

Conditions are written from the parameter outwards: a position is an entity expression, which properties
are read from and which leads to further positions; an operand is a property, which is compared and
asked. Properties are looked up as they are named, so that a misspelled name is reported at once.
-/

namespace EntityQuery

variable {S : Schema}

/-- An expression for a row of type `t` in a tree under construction. -/
structure Position (S : Schema) (t : S.Entity) where
  expr : Expr S
  /-- The parameter, if the position is the parameter itself. -/
  root : Option { p : Parameter S // p.entity = t }

/-- A property in a tree under construction. -/
structure Operand (S : Schema) where
  expr : Expr S
  type : PropertyType
  mode : CaseMode

namespace Position

variable {t : S.Entity}

/-- The position of the parameter. -/
def ofParameter (p : Parameter S) (h : p.entity = t) : Position S t := ⟨.parameter p, some ⟨p, h⟩⟩

/-- A property of the row. -/
def property (x : Position S t) (name : String) : Result (Operand S) := do
  let p ← (S.metadata t).resolve name
  .ok ⟨.member x.expr (Member.ofProperty t p), p.type, .ordinal⟩

/-- The row that a function leads to. -/
def navigate (x : Position S t) (label : String) (u : S.Entity) (map : S.Row t → S.Row u) :
    Position S u :=
  ⟨.project x.expr ⟨label, t, u, map⟩, none⟩

/-- A condition given by a function, of the parameter only. -/
def test (x : Position S t) (label : String) (f : S.Row t → Bool) : Result (Expr S) :=
  match x.root with
  | some ⟨p, h⟩ => .ok (.test ⟨label, p, t, f, h⟩)
  | none => .error (QueryError.withSuggestion
      (.unsupportedNode s!"{label}({x.expr.toText})" "Opaque test")
      "Apply opaque tests to the tree parameter only")

end Position

namespace Operand

/-- The operand with texts compared in the given way. -/
def withMode (o : Operand S) (mode : CaseMode) : Operand S := { o with mode }

/-- A comparison with a constant. -/
def compare (o : Operand S) (op : CompareOp) (v : Value) : Expr S :=
  .compare op o.expr (.constant v)

/-- The call of a method. -/
def call (o : Operand S) (m : Method) (args : List (Expr S)) : Expr S := .call m o.expr args

/-- Equality. Only texts are compared without regard to case. -/
def eq (o : Operand S) (v : Value) : Expr S :=
  if o.mode = .ignoreCase ∧ o.type.family.isTextual then
    o.call (.textEquals .ignoreCase) [.constant v]
  else o.compare .eq v

/-- Inequality, the negation of equality. It holds of null. -/
def ne (o : Operand S) (v : Value) : Expr S := (o.eq v).negate

/-- Both bounds belong to the range. -/
def between (o : Operand S) (low high : Value) : Expr S :=
  .and (o.compare .gte low) (o.compare .lte high)

/-- The text has the given one as a part. -/
def contains (o : Operand S) (s : String) : Expr S :=
  o.call (.contains o.mode) [.constant (.string s)]

/-- The text starts with the given one. -/
def startsWith (o : Operand S) (s : String) : Expr S :=
  o.call (.startsWith o.mode) [.constant (.string s)]

/-- The text ends with the given one. -/
def endsWith (o : Operand S) (s : String) : Expr S :=
  o.call (.endsWith o.mode) [.constant (.string s)]

/-- The value is null or the one its family starts from. -/
def isDefault (o : Operand S) : Expr S := o.call .isDefault []

/-- The value is neither null nor the one its family starts from. -/
def notEmpty (o : Operand S) : Expr S := o.isDefault.negate

/-- The collection has a member among the given values. -/
def overlaps (o : Operand S) (vs : List Value) : Expr S := o.call .overlaps [.constant (.list vs)]

/-- The collection has the same members as the given values. -/
def setEquals (o : Operand S) (vs : List Value) : Expr S := o.call .setEquals [.constant (.list vs)]

/-- The value is true. -/
def isTrue (o : Operand S) : Expr S := o.compare .eq (.bool true)

end Operand

/-- A new tree from a condition about its parameter. -/
def Tree.build (t : S.Entity) (f : Position S t → Result (Expr S)) : Fresh (Result (Tree S t)) := do
  let p : Parameter S := ⟨← Fresh.parameterId, Tree.parameterName, t⟩
  match f (.ofParameter p rfl) with
  | .ok body => return .ok (← Tree.assemble p rfl body)
  | .error e => return .error e

end EntityQuery

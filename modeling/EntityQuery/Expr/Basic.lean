import EntityQuery.Schema

/-!
# Expressions

The condition of a predicate is an expression with one free variable, the parameter, which stands for a
row. There are three sorts of expressions, which the syntax does not keep apart: entity expressions (the
parameter, and what projections lead to from it), values (constants and properties of entities) and
conditions, which are also Boolean values.
-/

namespace EntityQuery

/-! ### Leaves -/

/-- The variable of an expression. Parameters made at different times differ in their identity. -/
structure Parameter (S : Schema) where
  id : Nat
  name : String
  entity : S.Entity

/-- Parameters are the same if their numbers, names and entities are. -/
instance (S : Schema) : DecidableEq (Parameter S) := fun a b =>
  if h : a.id = b.id ∧ a.name = b.name ∧ a.entity = b.entity then
    .isTrue (by
      obtain ⟨h1, h2, h3⟩ := h
      cases a
      cases b
      simp_all)
  else .isFalse (by rintro rfl; simp at h)

/-- A property of one type of entities. -/
structure Member (S : Schema) where
  owner : S.Entity
  name : String
  type : PropertyType
  read : S.Row owner → Value

/-- A way from rows of one type to rows of another. -/
structure Projection (S : Schema) where
  label : String
  source : S.Entity
  target : S.Entity
  map : S.Row source → S.Row target

/-- A condition that is given by a function instead of an expression. It can be evaluated and it can be
moved to another parameter over the same type, and nothing else. -/
structure OpaqueTest (S : Schema) where
  label : String
  subject : Parameter S
  entity : S.Entity
  test : S.Row entity → Bool
  entity_eq : subject.entity = entity

/-- How two values are compared. -/
inductive CompareOp where
  | eq
  | ne
  | lt
  | lte
  | gt
  | gte
  deriving DecidableEq, Repr

/-- What can be asked of a value. -/
inductive Method where
  /-- The text has the argument as a substring. -/
  | contains (mode : CaseMode)
  /-- The text starts with the argument. -/
  | startsWith (mode : CaseMode)
  /-- The text ends with the argument. -/
  | endsWith (mode : CaseMode)
  /-- The text equals the argument. -/
  | textEquals (mode : CaseMode)
  /-- The value is null or the one its family starts from. -/
  | isDefault
  /-- Value and argument have a member in common. -/
  | overlaps
  /-- Value and argument have the same members. -/
  | setEquals
  deriving DecidableEq, Repr

/-- An expression over a schema. -/
inductive Expr (S : Schema) where
  | parameter (p : Parameter S)
  | constant (v : Value)
  | member (target : Expr S) (m : Member S)
  | project (target : Expr S) (p : Projection S)
  | compare (op : CompareOp) (left right : Expr S)
  | call (m : Method) (target : Expr S) (args : List (Expr S))
  | and (left right : Expr S)
  | or (left right : Expr S)
  | not (inner : Expr S)
  /-- A condition given by a function. -/
  | test (t : OpaqueTest S)

/-! ### Operators and methods -/

/-- How an operator is shown. -/
def CompareOp.symbol : CompareOp → String
  | eq => "=="
  | ne => "!="
  | lt => "<"
  | lte => "<="
  | gt => ">"
  | gte => ">="

namespace Method

/-- How a method is shown. -/
def name : Method → String
  | contains _ => "Contains"
  | startsWith _ => "StartsWith"
  | endsWith _ => "EndsWith"
  | textEquals _ => "Equals"
  | isDefault => "IsDefault"
  | overlaps => "Overlaps"
  | setEquals => "SetEquals"

/-- How many arguments the method takes. -/
def arity : Method → Nat
  | isDefault => 0
  | _ => 1

/-- How a method of texts compares. -/
def mode? : Method → Option CaseMode
  | contains c | startsWith c | endsWith c | textEquals c => some c
  | _ => none

end Method

variable {S : Schema}

/-- The property of a row of whichever type, null if the property is not one of its type. -/
def Member.readAny (m : Member S) (x : S.AnyRow) : Value := ((x.as? m.owner).map m.read).getD .null

/-- The row that a projection leads to from a row of whichever type. -/
def Projection.apply? (p : Projection S) (x : S.AnyRow) : Option S.AnyRow :=
  (x.as? p.source).map fun r => ⟨p.target, p.map r⟩

/-- Whether a row of whichever type passes a test. -/
def OpaqueTest.holds (t : OpaqueTest S) (x : S.AnyRow) : Bool := (x.as? t.entity).any t.test

/-- The test applied to another parameter over the same type. -/
def OpaqueTest.withSubject (t : OpaqueTest S) (p : Parameter S)
    (h : p.entity = t.subject.entity) : OpaqueTest S :=
  { t with subject := p, entity_eq := h.trans t.entity_eq }

@[simp] theorem OpaqueTest.holds_withSubject (t : OpaqueTest S) (p : Parameter S)
    (h : p.entity = t.subject.entity) : (t.withSubject p h).holds = t.holds := rfl

@[simp] theorem OpaqueTest.subject_withSubject (t : OpaqueTest S) (p : Parameter S)
    (h : p.entity = t.subject.entity) : (t.withSubject p h).subject = p := rfl

@[simp] theorem OpaqueTest.label_withSubject (t : OpaqueTest S) (p : Parameter S)
    (h : p.entity = t.subject.entity) : (t.withSubject p h).label = t.label := rfl

/-- The property of a type of entities as part of an expression. -/
def Member.ofProperty (e : S.Entity) (p : Property (S.Row e)) : Member S :=
  ⟨e, p.name, p.type, p.read⟩

/-- Whether a property of this type is a condition by itself. -/
def PropertyType.isCondition (t : PropertyType) : Bool := t.family == .boolean && !t.isCollection

namespace Expr

/-! ### Building -/

/-- The truth value as an expression. -/
def ofBool (b : Bool) : Expr S := .constant (.bool b)

/-- The negation of a condition. The negation of a negation is the condition itself. -/
def negate : Expr S → Expr S
  | .not inner => inner
  | e => .not e

/-! ### Inspection -/

/-- The truth value that the expression is, if it is one. -/
def bool? : Expr S → Option Bool
  | .constant (.bool b) => some b
  | _ => none

/-- What an expression is, for messages. -/
def kind : Expr S → String
  | .parameter _ => "Parameter"
  | .constant _ => "Constant"
  | .member .. => "Member"
  | .project .. => "Project"
  | .compare .. => "Compare"
  | .call .. => "Call"
  | .and .. => "And"
  | .or .. => "Or"
  | .not _ => "Not"
  | .test _ => "Opaque"

mutual

/-- How many nodes an expression has. -/
def nodeCount : Expr S → Nat
  | .parameter _ | .constant _ | .test _ => 1
  | .member target _ | .project target _ => target.nodeCount + 1
  | .compare _ left right | .and left right | .or left right =>
    left.nodeCount + right.nodeCount + 1
  | .call _ target args => target.nodeCount + nodeCounts args + 1
  | .not inner => inner.nodeCount + 1

/-- How many nodes several expressions have in all. -/
def nodeCounts : List (Expr S) → Nat
  | [] => 0
  | e :: rest => e.nodeCount + nodeCounts rest

end

mutual

/-- The expression as it is shown. -/
def toText : Expr S → String
  | .parameter p => p.name
  | .constant v => v.toText
  | .member target m => target.toText ++ "." ++ m.name
  | .project target p => target.toText ++ "." ++ p.label
  | .compare op left right => "(" ++ left.toText ++ " " ++ op.symbol ++ " " ++ right.toText ++ ")"
  | .call m target args =>
    target.toText ++ "." ++ m.name ++ "(" ++ ", ".intercalate (texts args) ++
      (if m.mode? = some .ignoreCase then ", IgnoreCase" else "") ++ ")"
  | .and left right => "(" ++ left.toText ++ " && " ++ right.toText ++ ")"
  | .or left right => "(" ++ left.toText ++ " || " ++ right.toText ++ ")"
  | .not inner => "!" ++ inner.toText
  | .test t => t.label ++ "(" ++ t.subject.name ++ ")"

/-- Each of several expressions as it is shown. -/
def texts : List (Expr S) → List String
  | [] => []
  | e :: rest => e.toText :: texts rest

end

end Expr

end EntityQuery

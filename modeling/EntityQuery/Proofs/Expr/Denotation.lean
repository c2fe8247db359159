import EntityQuery.Expr.Code

/-!
# What expressions denote

The meaning of an expression at a row, by recursion on the expression alone: the parameter denotes the
row, a projection the row that it leads to, a property the value that is read there, and a condition the
truth value of its operator. Nothing is checked; an expression in the wrong place denotes null.
-/

namespace EntityQuery

/-- Whether a value is the truth. -/
def Value.isTrue : Value → Bool
  | .bool b => b
  | _ => false

@[simp] theorem Value.isTrue_bool (b : Bool) : (Value.bool b).isTrue = b := rfl

/-- A value is the truth if nothing tells it apart from the truth. -/
theorem Value.beq_true (v : Value) : (v == .bool true) = v.isTrue := by
  cases v with
  | bool b => cases b <;> rfl
  | null | int | decimal | string | dateTime | uuid | list => rfl

variable {S : Schema}

namespace Expr

/-- The row that an entity expression denotes. -/
def locate (x : S.AnyRow) : Expr S → Option S.AnyRow
  | .parameter _ => some x
  | .project target p => locate x target >>= p.apply?
  | _ => none

/-- The property of the row that an entity expression denotes. -/
def read (x : S.AnyRow) (target : Expr S) (m : Member S) : Value :=
  ((target.locate x).map m.readAny).getD .null

mutual

/-- The value that an expression denotes. -/
def valueAt (x : S.AnyRow) : Expr S → Value
  | .parameter _ | .project .. => .null
  | .constant v => v
  | .member target m => read x target m
  | .compare op l r => .bool (op.holds (valueAt x l) (valueAt x r))
  | .call m target args => .bool (m.holds (valueAt x target) (firstAt x args))
  | .and l r => .bool ((valueAt x l).isTrue && (valueAt x r).isTrue)
  | .or l r => .bool ((valueAt x l).isTrue || (valueAt x r).isTrue)
  | .not inner => .bool (!(valueAt x inner).isTrue)
  | .test t => .bool (t.holds x)

/-- The value that the first of several expressions denotes, null if there is none. -/
def firstAt (x : S.AnyRow) : List (Expr S) → Value
  | [] => .null
  | e :: _ => valueAt x e

end

/-- Whether a condition holds at a row. -/
def holdsAt (x : S.AnyRow) (e : Expr S) : Bool := (e.valueAt x).isTrue

variable {x : S.AnyRow}

@[simp] theorem locate_parameter (p : Parameter S) : (parameter p).locate x = some x := rfl

@[simp] theorem locate_project (target : Expr S) (p : Projection S) :
    (project target p).locate x = target.locate x >>= p.apply? := rfl

theorem valueAt_parameter (p : Parameter S) : (parameter p).valueAt x = .null := rfl

theorem valueAt_project (target : Expr S) (p : Projection S) : (project target p).valueAt x = .null := rfl

@[simp] theorem valueAt_constant (v : Value) : (constant v : Expr S).valueAt x = v := rfl

@[simp] theorem valueAt_member (target : Expr S) (m : Member S) :
    (member target m).valueAt x = read x target m := rfl

theorem valueAt_compare (op : CompareOp) (l r : Expr S) :
    (compare op l r).valueAt x = .bool (op.holds (l.valueAt x) (r.valueAt x)) := rfl

theorem valueAt_call (m : Method) (target : Expr S) (args : List (Expr S)) :
    (call m target args).valueAt x = .bool (m.holds (target.valueAt x) (firstAt x args)) := rfl

theorem valueAt_and (l r : Expr S) :
    (and l r).valueAt x = .bool ((l.valueAt x).isTrue && (r.valueAt x).isTrue) := rfl

theorem valueAt_or (l r : Expr S) :
    (or l r).valueAt x = .bool ((l.valueAt x).isTrue || (r.valueAt x).isTrue) := rfl

theorem valueAt_not (e : Expr S) : (not e).valueAt x = .bool !(e.valueAt x).isTrue := rfl

theorem valueAt_test (t : OpaqueTest S) : (test t).valueAt x = .bool (t.holds x) := rfl

theorem firstAt_nil : firstAt x ([] : List (Expr S)) = .null := rfl

theorem firstAt_cons (e : Expr S) (es : List (Expr S)) : firstAt x (e :: es) = e.valueAt x := rfl

@[simp] theorem holdsAt_ofBool (b : Bool) : (ofBool b : Expr S).holdsAt x = b := by
  simp [ofBool, holdsAt]

@[simp] theorem holdsAt_compare (op : CompareOp) (l r : Expr S) :
    (compare op l r).holdsAt x = op.holds (l.valueAt x) (r.valueAt x) := rfl

@[simp] theorem holdsAt_call_nil (m : Method) (target : Expr S) :
    (call m target []).holdsAt x = m.holds (target.valueAt x) .null := rfl

@[simp] theorem holdsAt_call_cons (m : Method) (target e : Expr S) (es : List (Expr S)) :
    (call m target (e :: es)).holdsAt x = m.holds (target.valueAt x) (e.valueAt x) := rfl

@[simp] theorem holdsAt_and (l r : Expr S) : (and l r).holdsAt x = (l.holdsAt x && r.holdsAt x) := rfl

@[simp] theorem holdsAt_or (l r : Expr S) : (or l r).holdsAt x = (l.holdsAt x || r.holdsAt x) := rfl

@[simp] theorem holdsAt_not (e : Expr S) : (not e).holdsAt x = !e.holdsAt x := rfl

@[simp] theorem holdsAt_test (t : OpaqueTest S) : (test t).holdsAt x = t.holds x := rfl

/-- Negating is negating, whether or not a negation is taken away. -/
@[simp] theorem holdsAt_negate (e : Expr S) : e.negate.holdsAt x = !e.holdsAt x := by
  unfold negate
  split
  · simp
  · exact holdsAt_not _

end Expr

end EntityQuery

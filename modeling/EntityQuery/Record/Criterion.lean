import EntityQuery.Predicate.Question
import EntityQuery.Record

/-!
# Criteria

A condition on records as data: which properties are asked what, and by which labels the records nested
in a record are reached. A criterion is built at a position of a tree, and the first part that cannot be
built is the fault.
-/

namespace EntityQuery

/-- A condition about a record, as data. -/
inductive Criterion where
  | literal (b : Bool)
  | and (left right : Criterion)
  | or (left right : Criterion)
  | not (inner : Criterion)
  /-- A criterion for the record under a label, which is of the type `target`. -/
  | nested (label : String) (target : Nat) (inner : Criterion)
  /-- A test that only a function knows: whether a field has a value. -/
  | test (label field : String) (v : Value)
  | property (name : String) (mode : CaseMode) (q : Question)

/-- The condition of a criterion at a position. -/
def Criterion.build (decls : List EntityDecl) :
    Criterion → (t : Nat) → Position (Schema.ofDecls decls) t → Result (Expr (Schema.ofDecls decls))
  | .literal b, _, _ => .ok (.ofBool b)
  | .and left right, t, x => do
    let l ← left.build decls t x
    let r ← right.build decls t x
    .ok (.and l r)
  | .or left right, t, x => do
    let l ← left.build decls t x
    let r ← right.build decls t x
    .ok (.or l r)
  | .not inner, t, x => do
    let c ← inner.build decls t x
    .ok c.negate
  | .nested label target inner, _, x =>
    inner.build decls target (x.navigate label target (Record.child label target))
  | .test label field v, _, x => x.test label fun r => Record.field field r == v
  | .property name mode q, _, x => do
    let o ← x.property name
    .ok ((o.withMode mode).ask q)

end EntityQuery

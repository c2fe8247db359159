import EntityQuery.Workspace.Basic

/-!
# Terms

A term describes an expression as data, with names for what the workspace keeps. Its parts are looked up
from left to right, and the first one that is missing is the fault.
-/

namespace EntityQuery

/-- An expression as data, with names for what the workspace keeps. -/
inductive Term where
  | parameter (name : String)
  /-- The parameter of a specification. -/
  | parameterOf (specification : String)
  /-- The condition of a specification. -/
  | bodyOf (specification : String)
  | expression (name : String)
  | constant (v : Value)
  /-- A property of the type `owner`. -/
  | member (target : Term) (owner : Nat) (property : String)
  /-- The record under a label. -/
  | project (subject : Term) (label : String) (source target : Nat)
  | compare (op : CompareOp) (left right : Term)
  | call (m : Method) (target : Term) (args : List Term)
  | and (left right : Term)
  | or (left right : Term)
  /-- The negation, which for a negation is what it negates. -/
  | negate (inner : Term)
  /-- The negation, whatever is negated. -/
  | not (inner : Term)

variable {decls : List EntityDecl}

/-- The property of a type of records as part of an expression. -/
def memberNamed (decls : List EntityDecl) (owner : Nat) (name : String) :
    Result (Member (RecordSchema decls)) :=
  (((RecordSchema decls).metadata owner).resolve name).map
    (Member.ofProperty (S := RecordSchema decls) owner)

/-- The way to the record under a label. -/
def childProjection (decls : List EntityDecl) (label : String) (source target : Nat) :
    Projection (RecordSchema decls) :=
  ⟨label, source, target, Record.child label target⟩

mutual

/-- The expression that a term describes. -/
def Term.evaluate : Term → Action decls (Expr (RecordSchema decls))
  | .parameter name => do return .parameter (← Action.named Workspace.parameters name)
  | .parameterOf name => do
    return .parameter (← Action.named Workspace.specifications name).spec.tree.parameter
  | .bodyOf name => do return (← Action.named Workspace.specifications name).spec.tree.body
  | .expression name => Action.named Workspace.expressions name
  | .constant v => return .constant v
  | .member target owner property => do
    let e ← target.evaluate
    let m ← Action.ofResult (memberNamed decls owner property)
    return .member e m
  | .project subject label source target => do
    return .project (← subject.evaluate) (childProjection decls label source target)
  | .compare op left right => do
    let l ← left.evaluate
    let r ← right.evaluate
    return .compare op l r
  | .call m target args => do
    let e ← target.evaluate
    let es ← Term.evaluateAll args
    return .call m e es
  | .and left right => do
    let l ← left.evaluate
    let r ← right.evaluate
    return .and l r
  | .or left right => do
    let l ← left.evaluate
    let r ← right.evaluate
    return .or l r
  | .negate inner => do return (← inner.evaluate).negate
  | .not inner => do return .not (← inner.evaluate)

/-- The expressions that several terms describe, from left to right. -/
def Term.evaluateAll : List Term → Action decls (List (Expr (RecordSchema decls)))
  | [] => return []
  | t :: rest => do
    let e ← t.evaluate
    let es ← Term.evaluateAll rest
    return e :: es

end

namespace Action

/-- The parameter that a term describes. -/
def parameterOf (t : Term) : Action decls (Parameter (RecordSchema decls)) := do
  match ← t.evaluate with
  | .parameter p => pure p
  | _ => throw .wrongType

/-- Keeps the expression that a term describes. -/
def define (name : String) (t : Term) : Action decls (Expr (RecordSchema decls)) := do
  keepExpression name (← t.evaluate)

/-- Adds the substitutions that pairs of terms describe. -/
def substitutions : List (Term × Term) → Substitution (RecordSchema decls) →
    Action decls (Substitution (RecordSchema decls))
  | [], s => pure s
  | (p, e) :: rest, s => do
    let p ← parameterOf p
    let e ← e.evaluate
    substitutions rest (s.replace p e)

/-- What replacing the parameters of an expression did. -/
structure Replacement (decls : List EntityDecl) where
  before : Expr (RecordSchema decls)
  substitution : Substitution (RecordSchema decls)
  after : Expr (RecordSchema decls)

/-- Keeps an expression with parameters replaced. -/
def replace (name : String) (t : Term) (subs : List (Term × Term)) :
    Action decls (Replacement decls) := do
  let before ← t.evaluate
  let s ← substitutions subs {}
  let after ← ofResult (s.apply before)
  let after ← keepExpression name after
  pure ⟨before, s, after⟩

/-- Keeps a specification with a parameter and a condition that terms describe, the condition first. -/
def assemble (name : String) (t : Nat) (parameter body : Term) :
    Action decls (AnySpecification decls) := do
  let body ← body.evaluate
  let p ← parameterOf parameter
  let tree ← fresh (Tree.ofParts (S := RecordSchema decls) t p body) >>= ofResult
  keepSpecification name ⟨t, .ofTree tree⟩

end Action

end EntityQuery

import EntityQuery.Workspace.Basic

/-!
# Combining in workspaces

New specifications from criteria, from filters and from specifications that there are.
-/

namespace EntityQuery

/-- How a specification is carried on. -/
inductive Connective where
  | and
  | or
  | not
  deriving DecidableEq, Repr

/-- A specification carried on by several connectives one after the other, with `b` as the right operand
of each that has two. -/
def Specification.carryOn {S : Schema} {t : S.Entity} (b : Specification S t) :
    List Connective → Specification S t → Fresh (Specification S t)
  | [], a => pure a
  | .and :: rest, a => do b.carryOn rest (← a.and b)
  | .or :: rest, a => do b.carryOn rest (← a.or b)
  | .not :: rest, a => do b.carryOn rest (← a.not)

namespace Action

variable {decls : List EntityDecl}

/-- Keeps the specification of a criterion. -/
def build (name : String) (t : Nat) (c : Criterion) : Action decls (AnySpecification decls) := do
  let a ← fresh (Specification.build (S := RecordSchema decls) t (c.build decls t)) >>= ofResult
  keepSpecification name ⟨t, a⟩

/-- Keeps a specification that every record satisfies, or none. -/
def constant (name : String) (t : Nat) (b : Bool) : Action decls (AnySpecification decls) := do
  let a ← fresh (if b then Specification.always (S := RecordSchema decls) t
    else Specification.never (S := RecordSchema decls) t)
  keepSpecification name ⟨t, a⟩

/-- Keeps the specification of a list of filters. -/
def select (name : String) (t : Nat) (c : FilterConfig) (filters : List FilterSpec) :
    Action decls (AnySpecification decls) := do
  let a ← fresh (c.select (S := RecordSchema decls) t filters) >>= ofResult
  keepSpecification name ⟨t, a⟩

/-- Keeps a specification carried on, with another one as the right operand. -/
def combine (name a b : String) (ops : List Connective) : Action decls (AnySpecification decls) := do
  let a ← named Workspace.specifications a
  let b ← specificationOver a.entity b
  keepSpecification name ⟨a.entity, ← fresh (b.carryOn ops a.spec)⟩

/-- Keeps the negation of a specification. -/
def negate (name a : String) : Action decls (AnySpecification decls) := do
  let a ← named Workspace.specifications a
  keepSpecification name ⟨a.entity, ← fresh a.spec.not⟩

/-- Keeps the conjunction of specifications. -/
def all (name : String) (t : Nat) (of : List String) : Action decls (AnySpecification decls) := do
  let specs ← of.mapM (specificationOver t)
  keepSpecification name ⟨t, ← fresh (Specification.all (S := RecordSchema decls) t specs)⟩

/-- Keeps the disjunction of specifications. -/
def any (name : String) (t : Nat) (of : List String) : Action decls (AnySpecification decls) := do
  let specs ← of.mapM (specificationOver t)
  keepSpecification name ⟨t, ← fresh (Specification.any (S := RecordSchema decls) t specs)⟩

/-- Keeps a specification lifted to records of the type `parent`, which hold records of its own type
under a label. -/
def lift (name a : String) (parent : Nat) (label : String) :
    Action decls (AnySpecification decls) := do
  let a ← named Workspace.specifications a
  let b ← fresh (a.spec.lift label parent (Record.child label a.entity)) >>= ofResult
  keepSpecification name ⟨parent, b⟩

/-- Keeps a copy of a specification, or its tree as a specification that was not compiled yet. -/
def copy (name a : String) (anew : Bool) : Action decls (AnySpecification decls) := do
  let a ← named Workspace.specifications a
  keepSpecification name ⟨a.entity, if anew then .ofTree a.spec.tree else a.spec⟩

end Action

end EntityQuery

import EntityQuery.Predicate.Specification
import EntityQuery.Record.Criterion
import EntityQuery.Request.Selection

/-!
# Workspaces

A workspace keeps records of several types, and under names what is made to query them: parameters,
expressions, specifications, caches and compiled predicates. What is made anew takes the place of what
had its name, and what fails to be made leaves the workspace as it was but for the counters of caches.
-/

namespace EntityQuery

/-- The schema of declared types of records. -/
abbrev RecordSchema (decls : List EntityDecl) : Schema := Schema.ofDecls decls

/-- A specification about whichever type of records. -/
structure AnySpecification (decls : List EntityDecl) where
  entity : Nat
  spec : Specification (RecordSchema decls) entity

/-- Things by name. -/
abbrev Register (α : Type) := List (String × α)

/-- What has been made so far, each thing under its name. -/
structure Workspace (decls : List EntityDecl) where
  /-- The records of each type. -/
  rows : List (List Record)
  supply : Supply := {}
  parameters : Register (Parameter (RecordSchema decls)) := []
  expressions : Register (Expr (RecordSchema decls)) := []
  specifications : Register (AnySpecification decls) := []
  caches : Register (Cache (RecordSchema decls)) := []
  predicates : Register (Compiled (RecordSchema decls)) := []
  /-- The cache for everything that names none. -/
  shared : Cache (RecordSchema decls) := {}

/-- Why something cannot be done in a workspace. -/
inductive WorkspaceError where
  /-- There is nothing of that name. -/
  | unknownName
  /-- Things about different types of records cannot be combined. -/
  | wrongType
  | query (e : QueryError)

/-- Something to be done in a workspace. -/
abbrev Action (decls : List EntityDecl) (α : Type) :=
  ExceptT WorkspaceError (StateM (Workspace decls)) α

/-- The register with something under a name. -/
def Register.put {α : Type} (r : Register α) (name : String) (a : α) : Register α :=
  (name, a) :: r.filter fun e => e.1 != name

namespace Action

variable {decls : List EntityDecl} {α : Type}

/-- Makes things with new identities. -/
def fresh (f : Fresh α) : Action decls α := do
  let (a, supply) := f (← get).supply
  modify fun w => { w with supply }
  pure a

/-- The result of a function of the library, whose error ends the step. -/
def ofResult (r : Result α) : Action decls α :=
  match r with
  | .ok a => pure a
  | .error e => throw (.query e)

/-- What has a name in a register. -/
def named (register : Workspace decls → Register α) (name : String) : Action decls α := do
  match (register (← get)).lookup name with
  | some a => pure a
  | none => throw .unknownName

/-- A specification about one type of records. -/
def specificationOver (t : Nat) (name : String) :
    Action decls (Specification (RecordSchema decls) t) := do
  let a ← named Workspace.specifications name
  if h : a.entity = t then pure (h ▸ a.spec) else throw .wrongType

/-- The records of a type. -/
def rowsOf (t : Nat) : Action decls (List Record) := do
  pure ((← get).rows.getD t [])

/-! ### Keeping -/

/-- Puts a specification under a name. -/
def keepSpecification (name : String) (a : AnySpecification decls) :
    Action decls (AnySpecification decls) := do
  modify fun w => { w with specifications := w.specifications.put name a }
  pure a

/-- Puts an expression under a name. -/
def keepExpression (name : String) (e : Expr (RecordSchema decls)) :
    Action decls (Expr (RecordSchema decls)) := do
  modify fun w => { w with expressions := w.expressions.put name e }
  pure e

/-- Puts a cache under a name. -/
def keepCache (name : String) (c : Cache (RecordSchema decls)) : Action decls Unit :=
  modify fun w => { w with caches := w.caches.put name c }

/-- Makes a parameter. -/
def makeParameter (name : String) (t : Nat) (called : String) :
    Action decls (Parameter (RecordSchema decls)) := do
  let p ← fresh (Parameter.make (S := RecordSchema decls) called t)
  modify fun w => { w with parameters := w.parameters.put name p }
  pure p

end Action

end EntityQuery

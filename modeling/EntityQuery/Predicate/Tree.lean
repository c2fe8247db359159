import EntityQuery.Expr.Code
import EntityQuery.Expr.Substitution

/-!
# Predicate trees

A predicate tree is a condition together with the parameter it is about, which ranges over the rows of
one type of entities. Trees, parameters and compiled functions have identities: each is made with a
number that was not used before, and a copy keeps its number. The numbers come from a supply that is
threaded through everything that makes new things.
-/

namespace EntityQuery

/-! ### Identities -/

/-- The next unused numbers. -/
structure Supply where
  parameters : Nat := 0
  trees : Nat := 0
  callables : Nat := 0

/-- A computation that makes things with new identities. -/
abbrev Fresh (α : Type) := StateM Supply α

namespace Fresh

/-- The identity of a new parameter. -/
def parameterId : Fresh Nat := fun s => (s.parameters, { s with parameters := s.parameters + 1 })

/-- The identity of a new tree. -/
def treeId : Fresh Nat := fun s => (s.trees, { s with trees := s.trees + 1 })

/-- The identity of a new compiled function. -/
def callable : Fresh Nat := fun s => (s.callables, { s with callables := s.callables + 1 })

end Fresh

/-! ### Trees -/

/-- A condition about rows of the type `t`. -/
structure Tree (S : Schema) (t : S.Entity) where
  id : Nat
  parameter : Parameter S
  body : Expr S
  entity_eq : parameter.entity = t

/-- A new parameter. -/
def Parameter.make {S : Schema} (name : String) (e : S.Entity) : Fresh (Parameter S) := do
  return ⟨← Fresh.parameterId, name, e⟩

namespace Tree

variable {S : Schema} {t : S.Entity}

/-- The name that the builder gives to parameters. -/
def parameterName : String := "x"

/-- A new tree from a parameter over the right type and a body. -/
def assemble (p : Parameter S) (h : p.entity = t) (body : Expr S) : Fresh (Tree S t) := do
  return ⟨← Fresh.treeId, p, body, h⟩

/-- A new tree from any parameter and body. The parameter has to range over the right type; the body is
not looked at before the tree is compiled. -/
def ofParts (t : S.Entity) (p : Parameter S) (body : Expr S) : Fresh (Result (Tree S t)) := do
  if h : p.entity = t then return .ok (← assemble p h body)
  else
    let name := S.nameOf t
    return .error (QueryError.withEntity
      (.invalidTree s!"parameter '{p.name}' ranges over {S.nameOf p.entity}, expected {name}") name)

/-- A new tree with a parameter of its own. -/
def withNewParameter (t : S.Entity) (name : String) (body : Parameter S → Expr S) :
    Fresh (Tree S t) := do
  let id ← Fresh.parameterId
  assemble ⟨id, name, t⟩ rfl (body ⟨id, name, t⟩)

/-- A new tree that holds of every row or of none. -/
def constant (t : S.Entity) (b : Bool) : Fresh (Tree S t) :=
  withNewParameter t parameterName fun _ => .ofBool b

/-- The tree as it is shown. -/
def toText (tree : Tree S t) : String := tree.parameter.name ++ " => " ++ tree.body.toText

/-- An error with the tree it is about. -/
def blame (tree : Tree S t) (e : QueryError) : QueryError :=
  (e.withTree tree.toText).withEntity (S.nameOf t)

/-- The function that a tree is compiled to. -/
def compile (tree : Tree S t) : Result (ConditionCode S) :=
  (tree.body.compileCondition tree.parameter).mapError tree.blame

/-- Whether a row satisfies a tree, if the tree is well formed. -/
def holds (tree : Tree S t) (r : S.Row t) : Result Bool :=
  tree.compile.map fun f => f ⟨t, r⟩

theorem compile_eq_ok_iff {tree : Tree S t} {f : ConditionCode S} :
    tree.compile = .ok f ↔ tree.body.compileCondition tree.parameter = .ok f := by
  rw [compile]
  cases h : tree.body.compileCondition tree.parameter with
  | error e => exact ⟨nofun, nofun⟩
  | ok g => rfl

end Tree

end EntityQuery

import EntityQuery.Predicate.Builder
import EntityQuery.Predicate.Cache

/-!
# Specifications

A specification is a tree that remembers its compiled predicate. Specifications over one type are
combined by joining their trees, the right one renamed to the parameter of the left one, and a
specification is lifted to another type by putting a projection in the place of its parameter. The
result is a tree again, which can be inspected and rendered.
-/

namespace EntityQuery

variable {S : Schema} {t : S.Entity}

/-- A condition about rows of the type `t`. -/
structure Specification (S : Schema) (t : S.Entity) where
  tree : Tree S t
  /-- The predicate that the specification was compiled to first. -/
  memo : Option (Predicate S t) := none

namespace Specification

/-! ### Making -/

/-- The specification of a tree, which is not compiled yet. -/
def ofTree (tree : Tree S t) : Specification S t := ⟨tree, none⟩

/-- A new specification from a condition about its parameter. -/
def build (t : S.Entity) (f : Position S t → Result (Expr S)) :
    Fresh (Result (Specification S t)) := do
  return (← Tree.build t f).map ofTree

/-- A new specification that every row satisfies. -/
def always (t : S.Entity) : Fresh (Specification S t) := ofTree <$> Tree.constant t true

/-- A new specification that no row satisfies. -/
def never (t : S.Entity) : Fresh (Specification S t) := ofTree <$> Tree.constant t false

/-! ### Combining -/

/-- The body of `b` about the parameter of `a`. -/
def renamed (a b : Specification S t) : Expr S :=
  b.tree.body.rename b.tree.parameter a.tree.parameter (by rw [a.tree.entity_eq, b.tree.entity_eq])

/-- A new specification about the parameter of `a`. -/
def derive (a : Specification S t) (body : Expr S) : Fresh (Specification S t) :=
  ofTree <$> Tree.assemble a.tree.parameter a.tree.entity_eq body

/-- The rows that satisfy both, as a condition about the first one's parameter. -/
def and (a b : Specification S t) : Fresh (Specification S t) :=
  a.derive (.and a.tree.body (a.renamed b))

/-- The rows that satisfy one or the other, as a condition about the first one's parameter. -/
def or (a b : Specification S t) : Fresh (Specification S t) :=
  a.derive (.or a.tree.body (a.renamed b))

/-- The rows that do not satisfy the specification. -/
def not (a : Specification S t) : Fresh (Specification S t) := a.derive a.tree.body.negate

/-- The conjunction of all, which every row satisfies if there are none. -/
def all (t : S.Entity) : List (Specification S t) → Fresh (Specification S t)
  | [] => always t
  | first :: rest => rest.foldlM and first

/-- The disjunction of all, which no row satisfies if there are none. -/
def any (t : S.Entity) : List (Specification S t) → Fresh (Specification S t)
  | [] => never t
  | first :: rest => rest.foldlM or first

/-- The specification about rows from which a function leads to rows of its own type. -/
def lift (a : Specification S t) (label : String) (p : S.Entity) (map : S.Row p → S.Row t) :
    Fresh (Result (Specification S p)) := do
  let q : Parameter S := ⟨← Fresh.parameterId, a.tree.parameter.name, p⟩
  let s := ({} : Substitution S).replace a.tree.parameter (.project (.parameter q) ⟨label, p, t, map⟩)
  match s.apply a.tree.body with
  | .error e => return .error e
  | .ok body => return .ok (ofTree (← Tree.assemble q rfl body))

/-! ### Evaluating -/

/-- The compiled predicate. It is remembered, and later calls answer with it whatever the cache. -/
def compiledWith (a : Specification S t) (c : Cache S) :
    Fresh (Result (Predicate S t) × Specification S t × Cache S) := do
  match a.memo with
  | some p => return (.ok p, a, c)
  | none =>
    match ← c.compile a.tree with
    | (.ok p, c) => return (.ok p, { a with memo := some p }, c)
    | (.error e, c) => return (.error e, a, c)

/-- Whether a row satisfies a specification, which is compiled by way of a cache if it has to be. -/
def isSatisfiedWith (a : Specification S t) (c : Cache S) (r : S.Row t) :
    Fresh (Result Bool × Specification S t × Cache S) := do
  let (p, a, c) ← a.compiledWith c
  return (p.map fun p => p.holds r, a, c)

/-- The rows that satisfy a specification, which is compiled by way of a cache if it has to be. -/
def filterRowsWith (a : Specification S t) (c : Cache S) (rows : List (S.Row t)) :
    Fresh (Result (List (S.Row t)) × Specification S t × Cache S) := do
  let (p, a, c) ← a.compiledWith c
  return (p.map fun p => rows.filter p.holds, a, c)

/-- Whether a row satisfies a specification. -/
def isSatisfiedBy (a : Specification S t) (r : S.Row t) : Result Bool := a.tree.holds r

/-- The rows that satisfy a specification, in their order. -/
def filterRows (a : Specification S t) (rows : List (S.Row t)) : Result (List (S.Row t)) :=
  a.tree.compile.map fun f => rows.filter fun r => f ⟨t, r⟩

/-- The specification as it is shown. -/
def toText (a : Specification S t) : String := a.tree.toText

end Specification

end EntityQuery

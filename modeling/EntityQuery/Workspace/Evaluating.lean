import EntityQuery.Workspace.Basic

/-!
# Evaluating in workspaces

Specifications are evaluated over the records of their types, by way of the shared cache, or compiled by
way of another one. Compiled predicates can be kept, to see which of them are one.
-/

namespace EntityQuery

namespace Action

variable {decls : List EntityDecl}

/-! ### Records -/

/-- The records that satisfy a specification. -/
def accepted (name : String) : Action decls (List Record) := do
  let a ← named Workspace.specifications name
  let rows ← rowsOf a.entity
  let (found, spec, shared) ← fresh (a.spec.filterRowsWith (← get).shared rows)
  modify fun w => { w with shared }
  let _ ← keepSpecification name ⟨a.entity, spec⟩
  ofResult found

/-- Whether a record satisfies a specification. -/
def isSatisfied (name : String) (r : Record) : Action decls Bool := do
  let a ← named Workspace.specifications name
  let (held, spec, shared) ← fresh (a.spec.isSatisfiedWith (← get).shared r)
  modify fun w => { w with shared }
  let _ ← keepSpecification name ⟨a.entity, spec⟩
  ofResult held

/-- Of each record whether it satisfies a specification. -/
def verdicts (name : String) : Action decls (List Bool) := do
  let a ← named Workspace.specifications name
  (← rowsOf a.entity).mapM (isSatisfied name)

/-! ### Compiled predicates -/

/-- What a compiled specification does. -/
structure Outcome where
  accepted : List Record
  /-- Whether the predicate knows the tree it was compiled from. -/
  ownTree : Bool

/-- Keeps a compiled predicate, if it is given a name, and says what it does. -/
def outcome {t : Nat} (keep : Option String) (a : Specification (RecordSchema decls) t)
    (p : Predicate (RecordSchema decls) t) : Action decls Outcome := do
  match keep with
  | some name => modify fun w => { w with predicates := w.predicates.put name p.compiled }
  | none => pure ()
  pure ⟨(← rowsOf t).filter fun r => p.holds r, p.compiled.tree == a.tree.id⟩

/-- Compiles a specification without any cache. -/
def compileDirectly (keep : Option String) (name : String) : Action decls Outcome := do
  let a ← named Workspace.specifications name
  let p ← fresh a.spec.tree.compileNew >>= ofResult
  outcome keep a.spec p

/-- Compiles the tree of a specification by way of a cache. -/
def compile (keep : Option String) (name cache : String) : Action decls Outcome := do
  let a ← named Workspace.specifications name
  let c ← named Workspace.caches cache
  let (p, c) ← fresh (c.compile a.spec.tree)
  keepCache cache c
  outcome keep a.spec (← ofResult p)

/-- Compiles a specification by way of a cache, unless it remembers its predicate. -/
def compileRemembering (keep : Option String) (name cache : String) : Action decls Outcome := do
  let a ← named Workspace.specifications name
  let c ← named Workspace.caches cache
  let (p, spec, c) ← fresh (a.spec.compiledWith c)
  keepCache cache c
  let _ ← keepSpecification name ⟨a.entity, spec⟩
  outcome keep a.spec (← ofResult p)

/-- What a cache has of a specification. -/
def cached? (keep : Option String) (name cache : String) : Action decls (Option Outcome) := do
  let a ← named Workspace.specifications name
  let c ← named Workspace.caches cache
  match c.get? a.spec.tree with
  | some p => some <$> outcome keep a.spec p
  | none => pure none

/-- Whether two compiled predicates that are kept share one callable. -/
def sameCallable (a b : String) : Action decls Bool := do
  let p ← named Workspace.predicates a
  let q ← named Workspace.predicates b
  pure (p.callable == q.callable)

/-! ### Caches -/

/-- Whether a cache, or the shared one, has a specification. -/
def isCached (name : String) (cache : Option String) : Action decls Bool := do
  let a ← named Workspace.specifications name
  let c ← match cache with
    | some cache => named Workspace.caches cache
    | none => pure (← get).shared
  pure (c.contains a.spec.tree.id)

/-- Removes a specification from a cache, and says whether it was there. -/
def uncache (name cache : String) : Action decls Bool := do
  let a ← named Workspace.specifications name
  let c ← named Workspace.caches cache
  let (removed, c) := c.remove a.spec.tree.id
  keepCache cache c
  pure removed

/-- Changes a cache. -/
def changeCache (cache : String) (f : Cache (RecordSchema decls) → Cache (RecordSchema decls)) :
    Action decls Unit := do
  keepCache cache (f (← named Workspace.caches cache))

/-- Compiles a tree several times by way of one cache. -/
def compileOften {t : Nat} (tree : Tree (RecordSchema decls) t) :
    Nat → Cache (RecordSchema decls) →
      Fresh (List (Result (Predicate (RecordSchema decls) t)) × Cache (RecordSchema decls))
  | 0, c => pure ([], c)
  | n + 1, c => do
    let (p, c) ← c.compile tree
    let (ps, c) ← compileOften tree n c
    pure (p :: ps, c)

/-- What came of compiling a specification several times. -/
structure Contest (decls : List EntityDecl) where
  /-- Whether every time the predicate that the cache keeps came out. -/
  same : Bool
  cache : Cache (RecordSchema decls)

/-- Compiles a specification several times by way of one cache. -/
def contend (name cache : String) (times : Nat) : Action decls (Contest decls) := do
  let a ← named Workspace.specifications name
  let c ← named Workspace.caches cache
  let (ps, c) ← fresh (compileOften a.spec.tree times c)
  keepCache cache c
  let ps ← ofResult (ps.mapM id)
  let kept := (c.find? a.spec.tree.id).map Compiled.callable
  pure ⟨ps.all fun p => some p.compiled.callable == kept, c⟩

end Action

end EntityQuery

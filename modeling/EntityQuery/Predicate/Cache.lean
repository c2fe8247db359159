import EntityQuery.Binary64.Basic
import EntityQuery.Predicate.Tree

/-!
# Compiled predicates and their cache

Compiling a tree makes a new callable. A cache keeps, for the identity of a tree, the first callable
that was compiled from it, and counts how it is used. Copies of a tree share its identity and so its
entry; trees made apart never do, even if they look the same.
-/

namespace EntityQuery

variable {S : Schema}

/-! ### Compiled predicates -/

/-- A compiled tree: what it was compiled from, over which type, and the identity of the callable. -/
structure Compiled (S : Schema) where
  entity : S.Entity
  tree : Nat
  callable : Nat
  code : ConditionCode S

/-- A compiled tree over the type `t`. -/
structure Predicate (S : Schema) (t : S.Entity) where
  compiled : Compiled S
  entity_eq : compiled.entity = t

namespace Predicate

variable {t : S.Entity}

/-- Whether a row satisfies the predicate. -/
def holds (p : Predicate S t) (r : S.Row t) : Bool := p.compiled.code ⟨t, r⟩

/-- Whether two predicates share one callable. -/
def sameCallable (p q : Predicate S t) : Bool := p.compiled.callable == q.compiled.callable

end Predicate

/-- The compiled tree as one over the type `t`, if it is. -/
def Compiled.as? (c : Compiled S) (t : S.Entity) : Option (Predicate S t) :=
  if h : c.entity = t then some ⟨c, h⟩ else none

@[simp] theorem Compiled.as?_compiled {t : S.Entity} (p : Predicate S t) :
    p.compiled.as? t = some p := by
  simp [Compiled.as?, p.entity_eq]

/-- Compiles a tree into a new callable. -/
def Tree.compileNew {t : S.Entity} (tree : Tree S t) : Fresh (Result (Predicate S t)) := do
  match tree.compile with
  | .ok code => return .ok ⟨⟨t, tree.id, ← Fresh.callable, code⟩, rfl⟩
  | .error e => return .error e

/-! ### Caches -/

/-- Compiled trees by their identities, and counters of use. -/
structure Cache (S : Schema) where
  entries : List (Nat × Compiled S) := []
  hits : Nat := 0
  misses : Nat := 0
  compilations : Nat := 0

namespace Cache

variable {t : S.Entity}

/-- A cache without entries, its counters at zero. -/
def empty : Cache S := {}

/-- The entry of a tree. -/
def find? (c : Cache S) (id : Nat) : Option (Compiled S) :=
  (c.entries.find? fun e => e.1 == id).map Prod.snd

/-- Whether a tree has an entry. -/
def contains (c : Cache S) (id : Nat) : Bool := (c.find? id).isSome

/-- How many entries there are. -/
def size (c : Cache S) : Nat := c.entries.length

/-- The predicate of a tree, if the tree was compiled before. -/
def get? (c : Cache S) (tree : Tree S t) : Option (Predicate S t) :=
  c.find? tree.id >>= fun e => e.as? t

/-- Keeps a compiled tree, unless there is one already, and gives back the one that is kept. -/
def publish (c : Cache S) (id : Nat) (e : Compiled S) : Compiled S × Cache S :=
  match c.find? id with
  | some kept => (kept, c)
  | none => (e, { c with entries := c.entries ++ [(id, e)] })

/-- The error that an entry is over another type than its tree, which cannot happen. -/
def wrongEntity (id : Nat) : QueryError :=
  .internal s!"cached predicate #{id} has the wrong entity type"

/-- The predicate of a tree, compiled if it was not before. -/
def compile (c : Cache S) (tree : Tree S t) : Fresh (Result (Predicate S t) × Cache S) := do
  match c.get? tree with
  | some p => return (.ok p, { c with hits := c.hits + 1 })
  | none =>
    let c := { c with misses := c.misses + 1 }
    match ← tree.compileNew with
    | .error e => return (.error e, c)
    | .ok p =>
      let (kept, c) := { c with compilations := c.compilations + 1 : Cache S }.publish tree.id p.compiled
      match kept.as? t with
      | some p => return (.ok p, c)
      | none => return (.error (wrongEntity tree.id), c)

/-- Drops the entry of a tree. -/
def remove (c : Cache S) (id : Nat) : Bool × Cache S :=
  (c.contains id, { c with entries := c.entries.filter fun e => e.1 != id })

/-- Drops all entries. -/
def clear (c : Cache S) : Cache S := { c with entries := [] }

/-- Starts counting anew. -/
def resetCounters (c : Cache S) : Cache S := { c with hits := 0, misses := 0, compilations := 0 }

/-- How many of the lookups were answered without compiling, as a binary number. -/
def hitRate (c : Cache S) : Binary64 :=
  let rate := do
    let hits ← Binary64.ofNat? c.hits
    let total ← Binary64.ofNat? (c.hits + c.misses)
    hits.div? total
  rate.getD (.zero false)

@[simp] theorem find?_empty (id : Nat) : (empty : Cache S).find? id = none := rfl

@[simp] theorem find?_clear (c : Cache S) (id : Nat) : c.clear.find? id = none := rfl

/-- What is published is what is kept from then on. -/
@[simp] theorem find?_publish_self (c : Cache S) (id : Nat) (e : Compiled S) :
    (c.publish id e).2.find? id = some (c.publish id e).1 := by
  unfold publish
  split
  · assumption
  · rename_i h
    have h' : c.entries.find? (fun e => e.1 == id) = none := by simpa [find?] using h
    simp [find?, List.find?_append, h']

/-- A second result for the same tree is dropped. -/
theorem publish_of_find? {c : Cache S} {id : Nat} {kept : Compiled S} (e : Compiled S)
    (h : c.find? id = some kept) : c.publish id e = (kept, c) := by
  simp [publish, h]

theorem find?_publish_of_ne (c : Cache S) {id other : Nat} (e : Compiled S) (h : other ≠ id) :
    (c.publish id e).2.find? other = c.find? other := by
  unfold publish
  split
  · rfl
  · have : (id == other) = false := by simpa using h.symm
    simp [find?, List.find?_append, this]

@[simp] theorem find?_remove_self (c : Cache S) (id : Nat) : (c.remove id).2.find? id = none := by
  simp [find?, remove]

theorem find?_remove_of_ne (c : Cache S) {id other : Nat} (h : other ≠ id) :
    (c.remove id).2.find? other = c.find? other := by
  simp only [find?, remove, List.find?_filter]
  congr 2
  funext e
  by_cases he : e.1 = other <;> simp_all

end Cache

end EntityQuery

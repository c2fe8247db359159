import EntityQuery.Order.RowOrder
import EntityQuery.Predicate.Specification

/-!
# Sources of rows

A source can be filtered, ordered and paged. The source in memory filters at once but keeps the order
that is asked for until its rows are looked at or cut, and then sorts once. To order anew replaces the
order that is pending; to break ties adds to it.
-/

namespace EntityQuery

/-- Rows in memory. -/
structure RowSource (ρ : Type) where
  rows : List ρ
  pending : RowOrder ρ := {}

namespace RowSource

variable {ρ : Type}

/-- Rows in the order they have. -/
def ofRows (rows : List ρ) : RowSource ρ := { rows }

/-- How many rows there are. -/
def size (m : RowSource ρ) : Nat := m.rows.length

/-- Keeps the rows that a predicate holds of. -/
def retain (m : RowSource ρ) (p : ρ → Bool) : RowSource ρ := { m with rows := m.rows.filter p }

/-- Orders by a key instead of any order that is pending. -/
def orderBy (m : RowSource ρ) (k : OrderKey ρ) : RowSource ρ := { m with pending := ⟨[k]⟩ }

/-- Breaks the ties of the pending order. -/
def thenBy (m : RowSource ρ) (k : OrderKey ρ) : RowSource ρ :=
  { m with pending := m.pending.thenBy k }

/-- Sorts the rows if an order is pending. -/
def flush (m : RowSource ρ) : RowSource ρ :=
  if m.pending.keys.isEmpty then m else { rows := m.pending.sort m.rows }

/-- The first `take` rows, or all rows, after the first `skip`. -/
def cut (skip : Nat) (take : Option Nat) (rows : List ρ) : List ρ :=
  match take with
  | none => rows.drop skip
  | some n => (rows.drop skip).take n

/-- Skips some rows and keeps at most some of the rest. -/
def slice (m : RowSource ρ) (skip : Nat) (take : Option Nat) : RowSource ρ :=
  { m.flush with rows := cut skip take m.flush.rows }

/-- The rows, in the pending order if there is one. -/
def toList (m : RowSource ρ) : List ρ := m.flush.rows

/-- Orders by the keys of an order, if there are any. -/
def orderByAll (m : RowSource ρ) (o : RowOrder ρ) : RowSource ρ :=
  match o.keys with
  | [] => m
  | k :: ks => ks.foldl thenBy (m.orderBy k)

variable {S : Schema} {t : S.Entity}

/-- Keeps the rows that satisfy a specification. -/
def filter (m : RowSource (S.Row t)) (a : Specification S t) : Result (RowSource (S.Row t)) :=
  a.tree.compile.map fun f => m.retain fun r => f ⟨t, r⟩

/-- Orders by the keys of a request, of which there may be `most`. No keys leave the source as it is. -/
def orderBySpec (m : RowSource (S.Row t)) (most : Nat) (spec : SortSpec) :
    Result (RowSource (S.Row t)) :=
  (RowOrder.ofSpec most t spec).map m.orderByAll

/-- Orders by the keys of a request, or by a default key if there are none. -/
def orderBySpecOr (m : RowSource (S.Row t)) (most : Nat) (spec : SortSpec) (default : SortKey) :
    Result (RowSource (S.Row t)) :=
  m.orderBySpec most (if spec.isEmpty then [default] else spec)

@[simp] theorem flush_flush (m : RowSource ρ) : m.flush.flush = m.flush := by
  unfold flush
  split <;> simp

end RowSource

end EntityQuery

import EntityQuery.Order.Key

/-!
# Row orders

An order by several keys: rows are compared by the first key, and by each further one where all before
it tie. Sorting is stable, so rows that tie on every key keep their order.
-/

namespace EntityQuery

/-- An order of rows of type `ρ`, the most important key first. -/
structure RowOrder (ρ : Type) where
  keys : List (OrderKey ρ) := []

namespace RowOrder

variable {ρ : Type}

/-- The order that breaks the ties of another one. -/
def thenBy (o : RowOrder ρ) (k : OrderKey ρ) : RowOrder ρ := ⟨o.keys ++ [k]⟩

/-- The values by which a row is sorted, one for each key. -/
def extract (o : RowOrder ρ) (r : ρ) : List Value := o.keys.map fun k => k.extract r

/-- Compares rows given by the values they are sorted by, key by key. -/
def compareTuples : List (OrderKey ρ) → List Value → List Value → Ordering
  | k :: ks, a :: as, b :: bs => (k.compareValues a b).then (compareTuples ks as bs)
  | _, _, _ => .eq

/-- Compares rows by the values they are sorted by. -/
def compareValues (o : RowOrder ρ) (a b : List Value) : Ordering := compareTuples o.keys a b

/-- Compares rows by a list of keys. -/
def compareRows : List (OrderKey ρ) → ρ → ρ → Ordering
  | [], _, _ => .eq
  | k :: ks, a, b => (k.compare a b).then (compareRows ks a b)

/-- Compares rows by the first key that tells them apart. -/
def compare (o : RowOrder ρ) (a b : ρ) : Ordering := compareRows o.keys a b

/-- A row with the values it is sorted by. -/
def decorate (o : RowOrder ρ) (r : ρ) : List Value × ρ := (o.extract r, r)

/-- The rows in ascending order. The values of a row are read once. -/
def sort (o : RowOrder ρ) (rows : List ρ) : List ρ :=
  let sorted := (rows.map o.decorate).mergeSort fun a b => (o.compareValues a.1 b.1).isLE
  sorted.map Prod.snd

/-- The order as it is shown. -/
def toText (o : RowOrder ρ) : String := ", ".intercalate (o.keys.map OrderKey.toText)

/-- The order as it is shown for diagnosis. -/
def toRecordText (o : RowOrder ρ) : String := Text.listText (o.keys.map OrderKey.toRecordText)

/-- Comparing rows is comparing the values they are sorted by. -/
theorem compareTuples_map (ks : List (OrderKey ρ)) (a b : ρ) :
    compareTuples ks (ks.map fun k => k.extract a) (ks.map fun k => k.extract b) =
      compareRows ks a b := by
  induction ks with
  | nil => rfl
  | cons k rest ih => simp [compareTuples, compareRows, OrderKey.compare, ih]

theorem compareValues_extract (o : RowOrder ρ) (a b : ρ) :
    o.compareValues (o.extract a) (o.extract b) = o.compare a b :=
  compareTuples_map o.keys a b

end RowOrder

/-! ### Resolving -/

/-- How many keys a request may have, unless configured otherwise. -/
def defaultMaxSortKeys : Nat := 8

variable {S : Schema}

/-- Resolves keys one after the other. -/
def OrderKey.resolveAll (t : S.Entity) : List SortKey → Result (List (OrderKey (S.Row t)))
  | [] => .ok []
  | key :: rest => do
    let k ← OrderKey.resolve t key
    let ks ← OrderKey.resolveAll t rest
    .ok (k :: ks)

/-- The order that a request asks for, which may have `most` keys. -/
def RowOrder.ofSpec (most : Nat) (t : S.Entity) (spec : SortSpec) : Result (RowOrder (S.Row t)) :=
  if most < spec.length then
    .error (QueryError.withEntity
      (.invalidArity "Sort specification" s!"at most {most}" spec.length) (S.nameOf t))
  else
    match OrderKey.resolveAll t spec with
    | .ok keys => .ok ⟨keys⟩
    | .error e => .error (e.withContext "Resolving sort specification")

end EntityQuery

import EntityQuery.Request.Sort
import EntityQuery.Schema

/-!
# Order keys

A sort key that is resolved against a schema compares rows by one property. Two nulls are equal, a null
goes where the key says, and values are compared by the property's family, in the key's direction. Rows
may hold values that do not belong to the family; the total order of values takes care of them.
-/

namespace EntityQuery

/-- A resolved key for rows of type `ρ`. -/
structure OrderKey (ρ : Type) where
  property : Property ρ
  descending : Bool
  nulls : NullsOrder

/-- The natural order of the values of a family. Numbers are compared by value. -/
def Family.compareValues (f : Family) (a b : Value) : Ordering :=
  match f with
  | .integer | .decimal => (a.compare? b).getD (a.compareTotal b)
  | _ => a.compareTotal b

namespace OrderKey

variable {ρ : Type}

/-- Where a null stands in comparison to a value. -/
def nullSide : NullsOrder → Ordering
  | .first => .lt
  | .last => .gt

/-- Compares two values of the key's property. -/
def compareValues (k : OrderKey ρ) (a b : Value) : Ordering :=
  match a.isNull, b.isNull with
  | true, true => .eq
  | true, false => nullSide k.nulls
  | false, true => (nullSide k.nulls).swap
  | false, false =>
    let o := k.property.type.family.compareValues a b
    if k.descending then o.swap else o

/-- The value by which a row is sorted. -/
def extract (k : OrderKey ρ) (r : ρ) : Value := k.property.read r

/-- Compares two rows. -/
def compare (k : OrderKey ρ) (a b : ρ) : Ordering := k.compareValues (k.extract a) (k.extract b)

/-- The direction in which the key sorts. -/
def direction (k : OrderKey ρ) : SortDirection := if k.descending then .desc else .asc

/-- The key as it is shown. -/
def toText (k : OrderKey ρ) : String :=
  s!"{k.property.name} {k.direction.toSql} {k.nulls.toSql}"

/-- The key as it is shown for diagnosis. -/
def toRecordText (k : OrderKey ρ) : String :=
  let nulls := match k.nulls with
    | .first => "First"
    | .last => "Last"
  Text.recordText "OrderKey" [⟨"property", Text.quoted k.property.name⟩,
    ⟨"descending", if k.descending then "true" else "false"⟩, ⟨"nulls", nulls⟩]

/-- Resolves a requested key. Collections cannot be sorted by. -/
def resolve {S : Schema} (t : S.Entity) (key : SortKey) : Result (OrderKey (S.Row t)) := do
  let p ← (S.metadata t).resolve key.propertyName
  if p.type.isCollection then
    .error (QueryError.withEntity (.unsupportedOperation p.name
      s!"Cannot sort by collection property '{p.name}' of type {p.type.toText}") (S.nameOf t))
  else .ok ⟨p, key.descending, key.effectiveNulls⟩

end OrderKey

end EntityQuery

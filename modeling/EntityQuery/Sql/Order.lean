import EntityQuery.Order.Key
import EntityQuery.Sql.Syntax

/-!
# Rendering orders

Sort keys are rendered to the content of `ORDER BY`. Where nulls go is written only if the key says so;
a dialect that cannot say it sorts by whether the column is null first.
-/

namespace EntityQuery.Sql

/-- A sort expression. -/
structure OrderTerm where
  name : String
  direction : SortDirection
  nulls : Option NullsOrder

namespace OrderTerm

/-- The direction in which whether a column is null is sorted, where false comes before true. -/
def nullDirection : NullsOrder → SortDirection
  | .first => .desc
  | .last => .asc

/-- The term as a dialect writes it. -/
def toText (d : Dialect) (t : OrderTerm) : String :=
  let column := d.quoteIdentifier t.name
  let plain := s!"{column} {t.direction.toSql}"
  match t.nulls with
  | none => plain
  | some n =>
    if d.hasNullsOrder then s!"{plain} {n.toSql}"
    else s!"{column} IS NULL {(nullDirection n).toSql}, {plain}"

/-- The term of a requested key. -/
def ofKey {S : Schema} (t : S.Entity) (key : SortKey) : Result OrderTerm :=
  (OrderKey.resolve t key).map fun k => ⟨k.property.name, key.direction, key.nulls⟩

end OrderTerm

/-- The terms of requested keys. -/
def orderTerms {S : Schema} (t : S.Entity) : SortSpec → Result (List OrderTerm)
  | [] => .ok []
  | key :: rest => do
    let term ← OrderTerm.ofKey t key
    let terms ← orderTerms t rest
    .ok (term :: terms)

/-- The content of `ORDER BY` for requested keys. -/
def renderOrder {S : Schema} (d : Dialect) (t : S.Entity) (spec : SortSpec) : Result String :=
  (orderTerms t spec).map fun terms => ", ".intercalate (terms.map (OrderTerm.toText d))

end EntityQuery.Sql

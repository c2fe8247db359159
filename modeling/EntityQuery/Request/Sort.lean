/-!
# Sort keys

A request asks for an order by a list of keys, the first one being the most important.
-/

namespace EntityQuery

/-- Whether the least or the greatest values come first. -/
inductive SortDirection where
  | asc
  | desc
  deriving DecidableEq, Repr

/-- The direction as SQL writes it. -/
def SortDirection.toSql : SortDirection → String
  | asc => "ASC"
  | desc => "DESC"

/-- Where nulls are placed. -/
inductive NullsOrder where
  | first
  | last
  deriving DecidableEq, Repr

/-- The placement as SQL writes it. -/
def NullsOrder.toSql : NullsOrder → String
  | first => "NULLS FIRST"
  | last => "NULLS LAST"

/-- A key as it is requested. -/
structure SortKey where
  propertyName : String
  descending : Bool := false
  nulls : Option NullsOrder := none
  deriving DecidableEq

namespace SortKey

/-- The direction in which the key sorts. -/
def direction (k : SortKey) : SortDirection := if k.descending then .desc else .asc

/-- Where nulls go: where the key says, and otherwise before all values, in the key's direction. -/
def effectiveNulls (k : SortKey) : NullsOrder :=
  k.nulls.getD (if k.descending then .last else .first)

end SortKey

/-- The keys of a request, the most important first. -/
abbrev SortSpec := List SortKey

end EntityQuery

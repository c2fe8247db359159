import EntityQuery.Request.Selection
import EntityQuery.RowSource

/-!
# Query plans

A request has filters, sort keys and a page. A plan is a request resolved against a type of entities:
every fault of the request is found before any row is looked at, and running the plan filters, orders
and cuts, in this order.
-/

namespace EntityQuery

/-- The first number that is too large for a size. -/
def sizeBound : Nat := Nat.pow 2 64

/-- A request for rows. -/
structure QueryRequest where
  filters : List FilterSpec := []
  sort : SortSpec := []
  skip : Option Nat := none
  take : Option Nat := none
  deriving DecidableEq

/-- A page: how many rows to skip, and how many to return at most. -/
structure Pagination where
  skip : Nat := 0
  take : Option Nat := none
  deriving DecidableEq

namespace Pagination

/-- The page with this number, counted from one. The number of skipped rows stops at the largest size. -/
def page (number size : Nat) : Pagination := ⟨min (sizeBound - 1) ((number - 1) * size), some size⟩

/-- A page as it is shown for diagnosis. -/
def toRecordText (p : Pagination) : String :=
  let take := match p.take with
    | none => "None"
    | some n => s!"Some({n})"
  Text.recordText "Pagination" [⟨"skip", toString p.skip⟩, ⟨"take", take⟩]

/-- The page that a request asks for, within the configured limits. -/
def ofRequest (r : QueryRequest) (c : PagingConfig) : Pagination :=
  ⟨r.skip.getD 0, some (min (r.take.getD c.defaultPageSize) c.maxPageSize)⟩

end Pagination

/-- A request resolved against the type `t`. -/
structure QueryPlan (S : Schema) (t : S.Entity) where
  filter : Specification S t
  order : RowOrder (S.Row t)
  pagination : Pagination

namespace QueryPlan

variable {S : Schema} {t : S.Entity}

/-- Resolves a request, its filters before its sort keys. -/
def ofRequest (t : S.Entity) (r : QueryRequest) (c : Config) :
    Fresh (Result (QueryPlan S t)) := do
  match ← c.filters.select t r.filters with
  | .error e => return .error e
  | .ok filter =>
    match RowOrder.ofSpec c.ordering.maxSortKeys t r.sort with
    | .error e => return .error e
    | .ok order => return .ok ⟨filter, order, .ofRequest r c.paging⟩

/-- Runs a plan. -/
def apply (plan : QueryPlan S t) (m : RowSource (S.Row t)) : Result (RowSource (S.Row t)) := do
  let m ← m.filter plan.filter
  .ok ((m.orderByAll plan.order).slice plan.pagination.skip plan.pagination.take)

/-- A plan as it is shown for diagnosis. -/
def toRecordText (plan : QueryPlan S t) : String :=
  Text.recordText "QueryPlan" [⟨"filter", Text.quoted plan.filter.toText⟩,
    ⟨"order", Text.quoted plan.order.toText⟩, ⟨"pagination", plan.pagination.toRecordText⟩]

end QueryPlan

end EntityQuery

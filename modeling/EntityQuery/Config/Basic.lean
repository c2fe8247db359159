import EntityQuery.Error
import EntityQuery.Order.RowOrder
import EntityQuery.Value.Family

/-!
# Configuration

The limits within which requests are served, and how texts are compared.
-/

namespace EntityQuery

/-- How many filters a request may have, unless configured otherwise. -/
def defaultMaxFilters : Nat := 32

/-- How many rows are returned to a request that does not say. -/
def defaultPageSize : Nat := 50

/-- How many rows are returned at most, unless configured otherwise. -/
def defaultMaxPageSize : Nat := 500

/-- How many filters a request may have, and how texts are compared. -/
structure FilterConfig where
  maxFilters : Nat := defaultMaxFilters
  stringComparison : CaseMode := .ordinal
  deriving DecidableEq

/-- How many keys a request may sort by. -/
structure OrderingConfig where
  maxSortKeys : Nat := defaultMaxSortKeys
  deriving DecidableEq

/-- How many rows are on a page, where a request does not say so and at most. -/
structure PagingConfig where
  defaultPageSize : Nat := EntityQuery.defaultPageSize
  maxPageSize : Nat := defaultMaxPageSize
  deriving DecidableEq

/-- The limits that requests have to keep, and how texts are compared. -/
structure Config where
  filters : FilterConfig := {}
  ordering : OrderingConfig := {}
  paging : PagingConfig := {}
  deriving DecidableEq

namespace Config

/-- A configuration under which some request can be served. -/
def IsValid (c : Config) : Prop :=
  0 < c.filters.maxFilters ∧ 0 < c.ordering.maxSortKeys ∧ 0 < c.paging.maxPageSize ∧
    c.paging.defaultPageSize ≤ c.paging.maxPageSize

instance (c : Config) : Decidable c.IsValid := inferInstanceAs (Decidable (_ ∧ _))

/-- A limit that lets nothing pass. -/
def zeroLimit (name : String) : QueryError := .configuration s!"{name} must be at least 1"

/-- The configuration itself, or the first fault of it. -/
def validate (c : Config) : Result Unit :=
  if c.filters.maxFilters = 0 then .error (zeroLimit "filters.max_filters")
  else if c.ordering.maxSortKeys = 0 then .error (zeroLimit "ordering.max_sort_keys")
  else if c.paging.maxPageSize = 0 then .error (zeroLimit "paging.max_page_size")
  else if c.paging.maxPageSize < c.paging.defaultPageSize then
    .error (QueryError.withHelp (.configuration
        s!"paging.default_page_size ({c.paging.defaultPageSize}) exceeds paging.max_page_size ({c.paging.maxPageSize})")
      "Lower default_page_size or raise max_page_size")
  else .ok ()

theorem validate_eq_ok_iff {c : Config} : c.validate = .ok () ↔ c.IsValid := by
  unfold validate IsValid
  repeat' split
  all_goals simp_all
  all_goals omega

end Config

end EntityQuery

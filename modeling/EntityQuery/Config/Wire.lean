import EntityQuery.Config.Basic
import EntityQuery.Request.Wire

/-!
# Configurations in documents

A configuration has three sections of named settings. Sections and settings that are missing have their
defaults, and names that mean nothing are refused.
-/

namespace EntityQuery

open Json (Style)

/-- Reads the part of a configuration about filters. What is absent has its default. -/
def FilterConfig.ofTree? (n : Style) (j : Json) : Option FilterConfig := do
  match ← Json.fields? n true ["max_filters", "string_comparison"] j with
  | [max, mode] =>
    let max ← Json.defaulted? Json.size? defaultMaxFilters max
    let mode ← Json.defaulted? (Json.choice? n CaseMode.wireNames) .ordinal mode
    some ⟨max, mode⟩
  | _ => none

/-- Reads the part of a configuration about sort keys. What is absent has its default. -/
def OrderingConfig.ofTree? (n : Style) (j : Json) : Option OrderingConfig := do
  match ← Json.fields? n true ["max_sort_keys"] j with
  | [max] => some ⟨← Json.defaulted? Json.size? defaultMaxSortKeys max⟩
  | _ => none

/-- Reads the part of a configuration about pages. What is absent has its default. -/
def PagingConfig.ofTree? (n : Style) (j : Json) : Option PagingConfig := do
  match ← Json.fields? n true ["default_page_size", "max_page_size"] j with
  | [size, max] =>
    let size ← Json.defaulted? Json.size? EntityQuery.defaultPageSize size
    let max ← Json.defaulted? Json.size? defaultMaxPageSize max
    some ⟨size, max⟩
  | _ => none

namespace Config

/-- Reads a configuration. Whether it is valid is not looked at. -/
def ofTree? (n : Style) (j : Json) : Option Config := do
  match ← Json.fields? n true ["filters", "ordering", "paging"] j with
  | [filters, ordering, paging] =>
    let filters ← Json.defaulted? (FilterConfig.ofTree? n) {} filters
    let ordering ← Json.defaulted? (OrderingConfig.ofTree? n) {} ordering
    let paging ← Json.defaulted? (PagingConfig.ofTree? n) {} paging
    some ⟨filters, ordering, paging⟩
  | _ => none

/-- The document of a configuration, with every field. -/
def toJson (c : Config) : Json :=
  .object [
    (some "filters", .object [(some "max_filters", .ofNat c.filters.maxFilters),
      (some "string_comparison", .ofString c.filters.stringComparison.name)]),
    (some "ordering", .object [(some "max_sort_keys", .ofNat c.ordering.maxSortKeys)]),
    (some "paging", .object [(some "default_page_size", .ofNat c.paging.defaultPageSize),
      (some "max_page_size", .ofNat c.paging.maxPageSize)])]

end Config

end EntityQuery

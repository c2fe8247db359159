import EntityQuery.Config.Basic
import EntityQuery.Environment
import EntityQuery.Text.Blank
import EntityQuery.Text.Digits
import EntityQuery.Text.Lowercase

/-!
# Configuration by the environment

Variables of the environment override single settings. The first variable with a value that cannot be
read is the fault; then the configuration as a whole is checked.
-/

namespace EntityQuery

open Text (trim digitsValue)

namespace Config

/-- The first number that is too large for a limit. -/
def limitBound : Nat := Nat.pow 2 64

/-- Reads a limit: digits, possibly with a plus sign before them and blanks around. -/
def readLimit? (raw : String) : Option Nat :=
  let ds := match trim raw.toList with
    | '+' :: rest => rest
    | s => s
  if ds ≠ [] ∧ ds.all Char.isDigit ∧ digitsValue ds < limitBound then some (digitsValue ds) else none

/-- The limit set by a variable, or the one there was. -/
def limitFrom (env : Environment) (name : String) (current : Nat) : Result Nat :=
  match env.get? name with
  | none => .ok current
  | some raw =>
    match readLimit? raw with
    | some n => .ok n
    | none => .error (.configuration s!"{name} must be a non-negative integer, got '{raw}'")

/-- The way of comparing texts that a variable can name. -/
def readCaseMode? (raw : String) : Option CaseMode :=
  let word := String.ofList (Text.lowerChars (trim raw.toList))
  if word = "ordinal" then some .ordinal
  else if word = "ignore_case" ∨ word = "ignorecase" then some .ignoreCase
  else none

/-- The way of comparing texts set by the environment, or the one there was. -/
def caseModeFrom (env : Environment) (current : CaseMode) : Result CaseMode :=
  match env.get? "SIFT_STRING_COMPARISON" with
  | none => .ok current
  | some raw =>
    match readCaseMode? raw with
    | some mode => .ok mode
    | none => .error (.configuration
        s!"SIFT_STRING_COMPARISON must be 'ordinal' or 'ignore_case', got '{raw}'")

/-- The configuration with the settings of the environment, if it is valid. -/
def withEnvironment (env : Environment) (c : Config) : Result Config := do
  let maxFilters ← limitFrom env "SIFT_MAX_FILTERS" c.filters.maxFilters
  let stringComparison ← caseModeFrom env c.filters.stringComparison
  let maxSortKeys ← limitFrom env "SIFT_MAX_SORT_KEYS" c.ordering.maxSortKeys
  let defaultPageSize ← limitFrom env "SIFT_DEFAULT_PAGE_SIZE" c.paging.defaultPageSize
  let maxPageSize ← limitFrom env "SIFT_MAX_PAGE_SIZE" c.paging.maxPageSize
  let c : Config :=
    ⟨⟨maxFilters, stringComparison⟩, ⟨maxSortKeys⟩, ⟨defaultPageSize, maxPageSize⟩⟩
  c.validate
  .ok c

/-- The configuration that the environment alone gives. -/
def ofEnvironment (env : Environment) : Result Config := withEnvironment env {}

end Config

end EntityQuery

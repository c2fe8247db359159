import EntityQuery.Proofs.Expr.Substitution
import EntityQuery.Proofs.Request.Meaning
import EntityQuery.Request.Plan

/-!
# Faults of requests

A request has many places at which it can be at fault, and one fault is reported: that of the filters before
that of the sort keys, that of the number of them before that of a single one, and that of the first one
before that of the others (`RequestFault`). Whatever is reported blames the request
(`RequestFault.code_mem`, `isClient_of_mem_requestCodes`).
-/

namespace EntityQuery

/-! ### The first error -/

/-- The first member that fails does so with the error. -/
inductive FirstError {α β : Type} (f : α → Result β) : List α → QueryError → Prop where
  | head {a : α} {rest : List α} {e : QueryError} (h : f a = .error e) : FirstError f (a :: rest) e
  | tail {a : α} {b : β} {rest : List α} {e : QueryError} (ha : f a = .ok b) (h : FirstError f rest e) :
    FirstError f (a :: rest) e

namespace FirstError

variable {α β γ : Type} {f : α → Result β} {l : List α} {e : QueryError}

theorem exists_error (h : FirstError f l e) : ∃ a ∈ l, f a = .error e := by
  induction h with
  | head h => exact ⟨_, List.mem_cons_self, h⟩
  | tail _ _ ih =>
    obtain ⟨a, ha, h⟩ := ih
    exact ⟨a, List.mem_cons_of_mem _ ha, h⟩

/-- Only one error is the first. -/
theorem unique {e' : QueryError} (h : FirstError f l e) (h' : FirstError f l e') : e = e' := by
  induction h with
  | head h =>
    cases h' with
    | head h' => exact Except.error.inj (h.symm.trans h')
    | tail ha' _ => cases h.symm.trans ha'
  | tail ha _ ih =>
    cases h' with
    | head h' => cases ha.symm.trans h'
    | tail _ h' => exact ih h'

/-- Functions with the same errors have the same first error. -/
theorem of_errors {g : α → Result γ} (hfg : ∀ a e, f a = .error e ↔ g a = .error e) (h : FirstError f l e) :
    FirstError g l e := by
  induction h with
  | head h => exact .head ((hfg _ _).mp h)
  | @tail a _ _ _ ha _ ih =>
    cases hg : g a with
    | error e' => cases ha.symm.trans ((hfg a e').mpr hg)
    | ok c => exact .tail hg ih

end FirstError

variable {S : Schema}

/-! ### Faults -/

/-- Checks a filter; an error says which filter it is about. -/
def FilterSpec.checked (spec : FilterSpec) (t : S.Entity) :
    Result (Property (S.Row t) × List Value) :=
  (spec.check t).mapError (spec.blame t)

/-- The filters of a request are within the limit, and none is at fault. -/
structure FiltersPass (t : S.Entity) (r : QueryRequest) (c : Config) : Prop where
  length_le : r.filters.length ≤ c.filters.maxFilters
  checks : ∀ spec ∈ r.filters, ∃ out, spec.checked t = .ok out

/-- The sort keys of a request are within the limit, and are resolved to some keys. -/
structure KeysPass (t : S.Entity) (r : QueryRequest) (c : Config) (keys : List (OrderKey (S.Row t))) :
    Prop where
  length_le : r.sort.length ≤ c.ordering.maxSortKeys
  resolves : List.Forall₂ (fun key k => OrderKey.resolve t key = .ok k) r.sort keys

/-- The error with which a request is refused. -/
inductive RequestFault (t : S.Entity) (r : QueryRequest) (c : Config) : QueryError → Prop where
  /-- There are too many filters; they are not looked at. -/
  | manyFilters (h : c.filters.maxFilters < r.filters.length) :
    RequestFault t r c (QueryError.withEntity
      (.invalidArity "Filter list" s!"at most {c.filters.maxFilters}" r.filters.length) (S.nameOf t))
  /-- A filter is at fault. -/
  | filter {e : QueryError} (hcount : r.filters.length ≤ c.filters.maxFilters)
    (h : FirstError (fun spec => spec.checked t) r.filters e) : RequestFault t r c e
  /-- There are too many sort keys; the filters are not at fault. -/
  | manyKeys (hfilters : FiltersPass t r c) (h : c.ordering.maxSortKeys < r.sort.length) :
    RequestFault t r c (QueryError.withEntity
      (.invalidArity "Sort specification" s!"at most {c.ordering.maxSortKeys}" r.sort.length) (S.nameOf t))
  /-- A sort key is at fault; the filters are not. -/
  | key {e : QueryError} (hfilters : FiltersPass t r c) (hcount : r.sort.length ≤ c.ordering.maxSortKeys)
    (h : FirstError (OrderKey.resolve t) r.sort e) :
    RequestFault t r c (e.withContext "Resolving sort specification")

/-! ### Codes -/

/-- The codes with which a request is refused. -/
def requestCodes : List ErrorCode :=
  [.propertyNotFound, .typeMismatch, .unsupportedOperation, .invalidArity, .valueParseError]

theorem isClient_of_mem_requestCodes {code : ErrorCode} (h : code ∈ requestCodes) : code.isClient = true := by
  revert code
  decide

/-- Names that are proposed and help that is given change nothing else of an error. -/
theorem QueryError.kept_propertyNotFound {α : Type} (f : QueryError → α)
    (hsuggestion : ∀ e text, f (e.withSuggestion text) = f e) (hhelp : ∀ e text, f (e.withHelp text) = f e)
    (entity property : String) (known : List String) :
    f (.propertyNotFound entity property known) =
      f ((QueryError.mk .propertyNotFound s!"Property '{property}' not found on {entity}" {} false
        |>.withEntity entity).withProperty property) := by
  have hfold : ∀ (names : List String) (e : QueryError),
      f (names.foldl (fun e candidate => e.withSuggestion s!"Did you mean '{candidate}'?") e) = f e := by
    intro names
    induction names with
    | nil => exact fun _ => rfl
    | cons _ rest ih => exact fun e => (ih _).trans (hsuggestion e _)
  rw [QueryError.propertyNotFound]
  split
  · exact hfold _ _
  · exact (hhelp _ _).trans (hfold _ _)

theorem QueryError.code_propertyNotFound (entity property : String) (known : List String) :
    (QueryError.propertyNotFound entity property known).code = .propertyNotFound :=
  kept_propertyNotFound QueryError.code (fun _ _ => rfl) (fun _ _ => rfl) entity property known

theorem Metadata.code_of_resolve_eq_error {ρ : Type} {m : Metadata ρ} {name : String} {e : QueryError}
    (h : m.resolve name = .error e) : e.code = .propertyNotFound := by
  unfold resolve at h
  split at h
  · cases h
  · obtain rfl := Except.error.inj h
    exact QueryError.code_propertyNotFound _ _ _

theorem Family.code_of_parse_eq_error {f : Family} {raw : String} {e : QueryError}
    (h : f.parse raw = .error e) : e.code = .valueParseError := by
  unfold parse at h
  split at h
  · cases h
  · obtain rfl := Except.error.inj h
    cases f <;> rfl

theorem mapError_eq_error_iff {α : Type} {r : Result α} {f : QueryError → QueryError} {e : QueryError} :
    r.mapError f = .error e ↔ ∃ e', r = .error e' ∧ f e' = e := by
  cases r with
  | error e' => simp [Except.mapError]
  | ok a => exact ⟨nofun, fun ⟨_, h, _⟩ => nomatch h⟩

/-- A test that fails does so with its own error. -/
theorem eq_of_ite_eq_error {α : Type} {c : Prop} [Decidable c] {a : α} {e e' : QueryError}
    (h : (if c then .ok a else .error e : Result α) = .error e') : e' = e := by
  split at h
  · cases h
  · exact (Except.error.inj h).symm

namespace FilterSpec

variable {t : S.Entity} {spec : FilterSpec} {e : QueryError}

theorem code_of_readLiterals_eq_error {f : Family} {name : String} {raws : List String}
    (h : readLiterals f name raws = .error e) : e.code = .valueParseError := by
  induction raws with
  | nil => cases h
  | cons raw rest ih =>
    simp only [readLiterals, bind_eq_error_iff, reduceCtorEq, and_false, exists_false, or_false] at h
    rcases h with h | ⟨v, -, h⟩
    · obtain ⟨e', he', rfl⟩ := mapError_eq_error_iff.mp h
      have hcode : e'.code = .valueParseError := Family.code_of_parse_eq_error he'
      exact hcode
    · exact ih h

theorem code_of_operands_eq_error {f : Family} {name : String} (h : spec.operands f name = .error e) :
    e.code = .valueParseError := by
  unfold operands at h
  split at h
  · cases h
  · exact code_of_readLiterals_eq_error h

theorem code_of_checkArity_eq_error {op : FilterOperator} {name : String} {count : Nat}
    (h : op.checkArity name count = .error e) : e.code = .invalidArity := by
  unfold FilterOperator.checkArity at h
  split at h
  · rw [eq_of_ite_eq_error h]
    rfl
  · cases h

theorem code_of_checkProperty_eq_error {op : FilterOperator} {name : String} {p : PropertyType}
    (h : op.checkProperty name p = .error e) : e.code = .unsupportedOperation := by
  rw [eq_of_ite_eq_error h]
  rfl

theorem code_of_checkType_eq_error {declared : Family} {name : String} {p : PropertyType}
    (h : checkType declared name p = .error e) : e.code = .typeMismatch := by
  rw [eq_of_ite_eq_error h]
  rfl

/-- A check fails at the property, the type, the operator, the number of literals or a literal. -/
theorem code_of_check_eq_error (h : spec.check t = .error e) : e.code ∈ requestCodes := by
  simp only [check, bind_eq_error_iff, reduceCtorEq, and_false, exists_false, or_false] at h
  rcases h with h | ⟨p, -, h | ⟨_, -, h | ⟨_, -, h | ⟨_, -, h⟩⟩⟩⟩
  · rw [Metadata.code_of_resolve_eq_error h]
    decide
  · rw [code_of_checkType_eq_error h]
    decide
  · rw [code_of_checkProperty_eq_error h]
    decide
  · rw [code_of_checkArity_eq_error h]
    decide
  · rw [code_of_operands_eq_error h]
    decide

theorem code_of_checked_eq_error (h : spec.checked t = .error e) : e.code ∈ requestCodes := by
  obtain ⟨e', he', rfl⟩ := mapError_eq_error_iff.mp h
  have hcode : e'.code ∈ requestCodes := code_of_check_eq_error he'
  exact hcode

end FilterSpec

theorem OrderKey.code_of_resolve_eq_error {t : S.Entity} {key : SortKey} {e : QueryError}
    (h : OrderKey.resolve t key = .error e) : e.code ∈ requestCodes := by
  simp only [resolve, bind_eq_error_iff] at h
  rcases h with h | ⟨p, -, h⟩
  · rw [Metadata.code_of_resolve_eq_error h]
    decide
  · split at h
    · obtain rfl := Except.error.inj h
      change ErrorCode.unsupportedOperation ∈ requestCodes
      decide
    · cases h

/-- A request is refused with one of five codes. -/
theorem RequestFault.code_mem {t : S.Entity} {r : QueryRequest} {c : Config} {e : QueryError}
    (h : RequestFault t r c e) : e.code ∈ requestCodes := by
  cases h with
  | manyFilters | manyKeys =>
    change ErrorCode.invalidArity ∈ requestCodes
    decide
  | filter _ h =>
    obtain ⟨spec, -, hspec⟩ := h.exists_error
    exact FilterSpec.code_of_checked_eq_error hspec
  | @key e _ _ h =>
    obtain ⟨key, -, hkey⟩ := h.exists_error
    have hcode : e.code ∈ requestCodes := OrderKey.code_of_resolve_eq_error hkey
    exact hcode

end EntityQuery

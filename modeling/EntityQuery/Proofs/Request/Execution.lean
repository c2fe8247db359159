import EntityQuery.Proofs.Predicate.Combination
import EntityQuery.Proofs.Request.Faults
import EntityQuery.Proofs.RowSource.Running

/-!
# The execution of requests

A request is refused for one of its faults, or it is resolved to a plan that runs on any rows: the rows that
all filters select, in the stable order of the keys, without the rows that are skipped, and as many of them as
fit on a page (`QueryPlan.ofRequest_executes`). This holds under any configuration, whether it is valid or
not. The specification of the filters always compiles, so that a plan that has been made does not fail.
-/

namespace EntityQuery

variable {S : Schema} {t : S.Entity}

/-! ### Filters -/

namespace FilterSpec

variable {spec : FilterSpec} {mode : CaseMode}

/-- The operator of the filter holds of the row's property and of the literals, which are read in the
property's family. -/
def Selects (spec : FilterSpec) (mode : CaseMode) (t : S.Entity) (row : S.Row t) : Prop :=
  ∃ p ls, (S.metadata t).find? spec.propertyName = some p ∧
    (spec.operator ≠ .notEmpty → spec.literals.map p.type.family.read? = ls.map some) ∧
    spec.operator.Means mode p.type.family ls (p.read row)

/-- What a filter that passes the checks selects is what its operator means. -/
theorem selects_iff {p : Property (S.Row t)} {ls : List Value} (h : spec.check t = .ok (p, ls))
    (row : S.Row t) : spec.Selects mode t row ↔ spec.operator.Means mode p.type.family ls (p.read row) := by
  obtain ⟨hfind, -, hread⟩ := check_eq_ok h
  constructor
  · rintro ⟨q, ls', hq, hls', hmeans⟩
    obtain rfl := Option.some.inj (hfind.symm.trans hq)
    by_cases hop : spec.operator = .notEmpty
    · -- literals that are not looked at do not matter
      rw [hop] at hmeans ⊢
      exact hmeans
    · have hmap : ls'.map some = ls.map some := (hls' hop).symm.trans (hread hop)
      rwa [List.map_injective_iff.mpr (Option.some_injective _) hmap] at hmeans
  · exact fun hmeans => ⟨p, ls, hfind, hread, hmeans⟩

/-- A filter that does not pass the checks has no specification. -/
theorem toSpecification_eq_error {e : QueryError} (h : spec.checked t = .error e) (s : Supply) :
    (spec.toSpecification mode t s).1 = .error e := by
  obtain ⟨e', he', rfl⟩ := mapError_eq_error_iff.mp h
  simp only [toSpecification, he']
  rfl

/-- A filter that passes the checks has a specification, which accepts the rows that the filter selects. -/
theorem exists_toSpecification (mode : CaseMode) {out : Property (S.Row t) × List Value}
    (h : spec.checked t = .ok out) (s : Supply) : ∃ a f, (spec.toSpecification mode t s).1 = .ok a ∧ a.Means f ∧
      ∀ row, f row = true ↔ spec.Selects mode t row := by
  obtain ⟨p, ls⟩ := out
  have hcheck : spec.check t = .ok (p, ls) := mapError_eq_ok_iff.mp h
  obtain ⟨hfind, haccepts, -⟩ := check_eq_ok hcheck
  have hresolve : (S.metadata t).resolve p.name = .ok p := by
    rw [Metadata.resolve_eq_ok_iff, Metadata.name_of_find? hfind, hfind]
  obtain ⟨a, ha⟩ : ∃ a, (spec.toSpecification mode t s).1 = .ok a := by
    simp only [toSpecification, hcheck, Specification.build, Tree.build, Position.property, hresolve,
      bind, Except.bind]
    exact ⟨_, rfl⟩
  obtain ⟨q, ls', hcheck', hbody⟩ := toSpecification_eq_ok ha
  obtain ⟨rfl, rfl⟩ := Prod.mk.inj (Except.ok.inj (hcheck.symm.trans hcheck'))
  have hoperand : (operand p mode a.tree.parameter).expr.Fits a.tree.parameter .value :=
    .member (Expr.Fits.parameter_row_iff.mpr ⟨rfl, a.tree.entity_eq.symm⟩)
  have hfits : a.tree.body.Fits a.tree.parameter .condition := by
    rw [hbody]
    exact FilterOperator.condition_fits hoperand
  refine ⟨a, _, ha, Specification.means_holdsAt hfits, fun row => ?_⟩
  have hvalue : (operand p mode a.tree.parameter).expr.valueAt ⟨t, row⟩ = p.read row := by
    simp [operand, Expr.read, Member.readAny, Member.ofProperty]
  rw [selects_iff hcheck, hbody, FilterOperator.condition_holdsAt_iff haccepts, hvalue]
  rfl

/-! ### Lists of filters -/

/-- The filters of a list have specifications, or the first one at fault is reported. -/
theorem toSpecifications_cases (mode : CaseMode) (t : S.Entity) (specs : List FilterSpec) (s : Supply) :
    (∃ e, (toSpecifications mode t specs s).1 = .error e ∧ FirstError (fun spec => spec.checked t) specs e) ∨
      ∃ as fs, (toSpecifications mode t specs s).1 = .ok as ∧
        (∀ spec ∈ specs, ∃ out, spec.checked t = .ok out) ∧ List.Forall₂ Specification.Means as fs ∧
        ∀ row, (fs.all fun f => f row) = true ↔ ∀ spec ∈ specs, spec.Selects mode t row := by
  induction specs generalizing s with
  | nil => exact .inr ⟨[], [], rfl, nofun, .nil, by simp⟩
  | cons spec rest ih =>
    cases hchecked : spec.checked t with
    | error e =>
      refine .inl ⟨e, ?_, .head hchecked⟩
      rw [toSpecifications, Fresh.bind_apply, toSpecification_eq_error hchecked]
      rfl
    | ok out =>
      obtain ⟨a, f, ha, hmeans, hf⟩ := exists_toSpecification mode hchecked s
      have hcons : (toSpecifications mode t (spec :: rest) s).1 =
          ((toSpecifications mode t rest (spec.toSpecification mode t s).2).1).map (a :: ·) := by
        rw [toSpecifications, Fresh.bind_apply, ha]
        rfl
      rw [hcons]
      rcases ih (spec.toSpecification mode t s).2 with ⟨e, he, hfirst⟩ | ⟨as, fs, has, hchecks, hall, hfs⟩
      · rw [he]
        exact .inl ⟨e, rfl, .tail hchecked hfirst⟩
      · rw [has]
        refine .inr ⟨a :: as, f :: fs, rfl, List.forall_mem_cons.mpr ⟨⟨out, hchecked⟩, hchecks⟩,
          .cons hmeans hall, fun row => ?_⟩
        rw [List.all_cons, Bool.and_eq_true, hf, hfs, List.forall_mem_cons]

end FilterSpec

namespace FilterConfig

/-- A list with more filters than the limit is refused for its length, and nothing new is made. -/
theorem select_of_lt {c : FilterConfig} {specs : List FilterSpec} (h : c.maxFilters < specs.length)
    (t : S.Entity) (s : Supply) :
    c.select t specs s = (.error (QueryError.withEntity
      (.invalidArity "Filter list" s!"at most {c.maxFilters}" specs.length) (S.nameOf t)), s) := by
  rw [select, if_pos h]
  rfl

/-- A list of filters within the limit has a specification, which accepts the rows that all of them select, or
the first filter at fault is reported. -/
theorem select_of_le {c : FilterConfig} {specs : List FilterSpec} (h : specs.length ≤ c.maxFilters)
    (t : S.Entity) (s : Supply) :
    (∃ e, (c.select t specs s).1 = .error e ∧ FirstError (fun spec => spec.checked t) specs e) ∨
      ∃ a keep, (c.select t specs s).1 = .ok a ∧ (∀ spec ∈ specs, ∃ out, spec.checked t = .ok out) ∧
        a.Means keep ∧ ∀ row, keep row = true ↔ ∀ spec ∈ specs, spec.Selects c.stringComparison t row := by
  rw [select, if_neg (Nat.not_lt.mpr h), Fresh.bind_apply]
  rcases FilterSpec.toSpecifications_cases c.stringComparison t specs s with
    ⟨e, he, hfirst⟩ | ⟨as, fs, has, hchecks, hmeans, hfs⟩
  · rw [he]
    exact .inl ⟨e, rfl, hfirst⟩
  · rw [has]
    exact .inr ⟨_, _, rfl, hchecks, Specification.all_means hmeans _, hfs⟩

/-- The filters of a request have a specification, or one of their faults is reported. -/
theorem select_cases (t : S.Entity) (r : QueryRequest) (c : Config) (s : Supply) :
    (∃ e, (c.filters.select t r.filters s).1 = .error e ∧ RequestFault t r c e) ∨
      ∃ a keep, (c.filters.select t r.filters s).1 = .ok a ∧ FiltersPass t r c ∧ a.Means keep ∧
        ∀ row, keep row = true ↔ ∀ spec ∈ r.filters, spec.Selects c.filters.stringComparison t row := by
  by_cases hcount : c.filters.maxFilters < r.filters.length
  · rw [select_of_lt hcount]
    exact .inl ⟨_, rfl, .manyFilters hcount⟩
  · have hle := Nat.le_of_not_lt hcount
    rcases select_of_le hle t s with ⟨e, he, hfirst⟩ | ⟨a, keep, ha, hchecks, hmeans, hkeep⟩
    · exact .inl ⟨e, he, .filter hle hfirst⟩
    · exact .inr ⟨a, keep, ha, ⟨hle, hchecks⟩, hmeans, hkeep⟩

end FilterConfig

/-! ### Keys -/

/-- Keys are resolved, or the first one at fault is reported. -/
theorem OrderKey.resolveAll_cases (t : S.Entity) (spec : SortSpec) :
    (∃ e, OrderKey.resolveAll t spec = .error e ∧ FirstError (OrderKey.resolve t) spec e) ∨
      ∃ keys, OrderKey.resolveAll t spec = .ok keys ∧
        List.Forall₂ (fun key k => OrderKey.resolve t key = .ok k) spec keys := by
  induction spec with
  | nil => exact .inr ⟨[], rfl, .nil⟩
  | cons key rest ih =>
    cases hkey : OrderKey.resolve t key with
    | error e =>
      refine .inl ⟨e, ?_, .head hkey⟩
      rw [resolveAll, hkey]
      rfl
    | ok k =>
      rcases ih with ⟨e, he, hfirst⟩ | ⟨keys, hkeys, hall⟩
      · refine .inl ⟨e, ?_, .tail hkey hfirst⟩
        rw [resolveAll, hkey, he]
        rfl
      · refine .inr ⟨k :: keys, ?_, .cons hkey hall⟩
        rw [resolveAll, hkey, hkeys]
        rfl

/-- A key that is resolved goes in the direction that is requested, and places nulls as it is requested. -/
theorem OrderKey.resolve_eq_ok {key : SortKey} {k : OrderKey (S.Row t)} (h : OrderKey.resolve t key = .ok k) :
    k.direction = key.direction ∧ k.nulls = key.effectiveNulls := by
  obtain ⟨p, -, hp⟩ := bind_eq_ok_iff.mp h
  split at hp
  · cases hp
  · cases hp
    exact ⟨rfl, rfl⟩

/-- The keys of an order are the requested ones, resolved one by one. -/
theorem RowOrder.ofSpec_eq_ok {most : Nat} {spec : SortSpec} {o : RowOrder (S.Row t)}
    (h : RowOrder.ofSpec most t spec = .ok o) :
    List.Forall₂ (fun key k => OrderKey.resolve t key = .ok k) spec o.keys := by
  unfold ofSpec at h
  split at h
  · cases h
  · rcases OrderKey.resolveAll_cases t spec with ⟨e, he, -⟩ | ⟨keys, hkeys, hall⟩
    · rw [he] at h
      cases h
    · rw [hkeys] at h
      cases h
      exact hall

/-- If the filters pass, the keys of a request are resolved, or one of their faults is reported. -/
theorem RowOrder.ofSpec_cases {r : QueryRequest} {c : Config} (hfilters : FiltersPass t r c) :
    (∃ e, RowOrder.ofSpec c.ordering.maxSortKeys t r.sort = .error e ∧ RequestFault t r c e) ∨
      ∃ keys, RowOrder.ofSpec c.ordering.maxSortKeys t r.sort = .ok ⟨keys⟩ ∧ KeysPass t r c keys := by
  by_cases hcount : c.ordering.maxSortKeys < r.sort.length
  · refine .inl ⟨_, ?_, .manyKeys hfilters hcount⟩
    rw [ofSpec, if_pos hcount]
  · have hle := Nat.le_of_not_lt hcount
    rw [ofSpec, if_neg hcount]
    rcases OrderKey.resolveAll_cases t r.sort with ⟨e, he, hfirst⟩ | ⟨keys, hkeys, hall⟩
    · rw [he]
      exact .inl ⟨_, rfl, .key hfilters hle hfirst⟩
    · rw [hkeys]
      exact .inr ⟨keys, rfl, hle, hall⟩

/-! ### Rows -/

namespace RowSource

variable {ρ : Type}

/-- To cut is to cut the rows that are seen. -/
theorem toList_slice (m : RowSource ρ) (skip : Nat) (take : Option Nat) :
    (m.slice skip take).toList = cut skip take m.toList := by
  have hpending : (m.slice skip take).pending.keys.isEmpty = true := List.isEmpty_iff.mpr m.flush_pending
  rw [toList, flush, if_pos hpending]
  rfl

end RowSource

/-! ### Plans -/

namespace QueryPlan

/-- A plan whose specification means something runs on any rows. -/
theorem apply_of_means {plan : QueryPlan S t} {keep : S.Row t → Bool} (h : plan.filter.Means keep)
    (rows : List (S.Row t)) :
    ∃ m sorted, plan.apply (RowSource.ofRows rows) = .ok m ∧
      IsStableSort (RowOrder.compareRows plan.order.keys) (rows.filter keep) sorted ∧
      m.toList = RowSource.cut plan.pagination.skip plan.pagination.take sorted := by
  have hkeep : plan.filter.accepts = keep := funext h.accepts_eq
  have hfilter : (RowSource.ofRows rows).filter plan.filter = .ok (RowSource.ofRows (rows.filter keep)) := by
    rw [RowSource.filter_eq_ok_iff, hkeep]
    exact ⟨h.compiles, rfl⟩
  refine ⟨_, _, ?_, RowSource.toList_isStableSort ⟨rows.filter keep, plan.order⟩, RowSource.toList_slice _ _ _⟩
  rw [apply, hfilter, ← RowSource.orderByAll_ofRows]
  rfl

/-- A request is refused for a fault of its own, with a code that blames the client, or it is resolved to a
plan. The plan runs on any rows, and gives those that satisfy all filters, stably sorted by the keys, after the
skipped ones, and as many as were asked for and are allowed. -/
theorem ofRequest_executes (t : S.Entity) (r : QueryRequest) (c : Config) (s : Supply) :
    (∃ e, (QueryPlan.ofRequest t r c s).1 = .error e ∧ RequestFault t r c e ∧ e.code ∈ requestCodes ∧
      e.code.isClient = true) ∨
    ∃ plan keys keep, (QueryPlan.ofRequest t r c s).1 = .ok plan ∧ FiltersPass t r c ∧ KeysPass t r c keys ∧
      (∀ row, keep row = true ↔ ∀ spec ∈ r.filters, spec.Selects c.filters.stringComparison t row) ∧
      ∀ rows, ∃ m sorted, plan.apply (RowSource.ofRows rows) = .ok m ∧
        IsStableSort (RowOrder.compareRows keys) (rows.filter keep) sorted ∧
        m.toList = (sorted.drop (r.skip.getD 0)).take
          (min (r.take.getD c.paging.defaultPageSize) c.paging.maxPageSize) ∧
        m.toList.length ≤ c.paging.maxPageSize := by
  rw [ofRequest, Fresh.bind_apply]
  rcases FilterConfig.select_cases t r c s with ⟨e, he, hfault⟩ | ⟨a, keep, ha, hfilters, hmeans, hkeep⟩
  · rw [he]
    exact .inl ⟨e, rfl, hfault, hfault.code_mem, isClient_of_mem_requestCodes hfault.code_mem⟩
  rw [ha]
  rcases RowOrder.ofSpec_cases hfilters with ⟨e, he, hfault⟩ | ⟨keys, hkeys, hpass⟩
  · refine .inl ⟨e, ?_, hfault, hfault.code_mem, isClient_of_mem_requestCodes hfault.code_mem⟩
    simp only [he]
    rfl
  refine .inr ⟨⟨a, ⟨keys⟩, .ofRequest r c.paging⟩, keys, keep, ?_, hfilters, hpass, hkeep, fun rows => ?_⟩
  · simp only [hkeys]
    rfl
  have hplan : (⟨a, ⟨keys⟩, .ofRequest r c.paging⟩ : QueryPlan S t).filter.Means keep := hmeans
  obtain ⟨m, sorted, hm, hsorted, hrows⟩ := apply_of_means hplan rows
  refine ⟨m, sorted, hm, hsorted, hrows, ?_⟩
  rw [hrows]
  exact (List.length_take_le _ _).trans (Nat.min_le_right _ _)

end QueryPlan

end EntityQuery

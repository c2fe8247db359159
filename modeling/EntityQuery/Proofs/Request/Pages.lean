import EntityQuery.Proofs.RowSource.Ordering
import EntityQuery.Proofs.Request.Execution
import Mathlib.Algebra.Order.Floor.Div

/-!
# Pages of an answer

A request is answered page by page: each page is a request of its own, whose filters are translated and whose
rows are selected and sorted anew. The pages do not depend on that, since a request that is resolved once is
resolved always (`QueryPlan.exists_ofRequest`), and there is only one stable sort. So the pages up to the last
one, one after the other, are the whole answer, and those after it are empty (`QueryPlan.pages_partition`). The
number of skipped rows may stop short of what a page number asks for, but only where no row is left
(`RowSource.cut_page`).
-/

namespace EntityQuery

/-! ### Pages of a list -/

namespace RowSource

variable {α : Type} {l : List α} {size : Nat}

/-- The pages up to one of them are as many members as have room there. -/
theorem flatMap_drop_take (l : List α) (size last : Nat) :
    ((List.range' 1 last).flatMap fun i => (l.drop ((i - 1) * size)).take size) = l.take (last * size) := by
  induction last with
  | zero => simp
  | succ last ih =>
    rw [List.range'_1_concat, List.flatMap_append, ih, Nat.succ_mul, List.take_add]
    simp

/-- The pages up to the last one are the whole list. -/
theorem flatMap_pages (hsize : 0 < size) :
    ((List.range' 1 (l.length ⌈/⌉ size)).flatMap fun i => (l.drop ((i - 1) * size)).take size) = l := by
  rw [flatMap_drop_take]
  refine List.take_of_length_le ?_
  rw [Nat.mul_comm]
  exact (ceilDiv_le_iff_le_mul hsize).mp le_rfl

/-- There is nothing on a page after the last one. -/
theorem drop_of_lt (hsize : 0 < size) {number : Nat} (h : l.length ⌈/⌉ size < number) :
    l.drop ((number - 1) * size) = [] := by
  refine List.drop_eq_nil_of_le ?_
  rw [Nat.mul_comm]
  exact (ceilDiv_le_iff_le_mul hsize).mp (Nat.le_sub_one_of_lt h)

/-- A page of a list that can be counted starts where its number says, even if more members would have to be
skipped than can be counted. -/
theorem cut_page (h : l.length < sizeBound) (number : Nat) :
    cut (Pagination.page number size).skip (some size) l = (l.drop ((number - 1) * size)).take size := by
  have hdrop : l.drop (min (sizeBound - 1) ((number - 1) * size)) = l.drop ((number - 1) * size) :=
    List.drop_eq_drop_iff.mpr (by omega)
  rw [cut, Pagination.page, hdrop]

end RowSource

variable {S : Schema} {t : S.Entity} {r : QueryRequest} {c : Config}

/-! ### Requests that are resolved -/

/-- A request that passes all checks has no fault. -/
theorem RequestFault.not_pass {e : QueryError} (h : RequestFault t r c e) (hfilters : FiltersPass t r c)
    (keys : List (OrderKey (S.Row t))) : ¬KeysPass t r c keys := by
  intro hkeys
  cases h with
  | manyFilters h => exact absurd hfilters.length_le (Nat.not_le.mpr h)
  | filter _ h =>
    obtain ⟨spec, hmem, herror⟩ := h.exists_error
    obtain ⟨out, hout⟩ := hfilters.checks spec hmem
    cases herror.symm.trans hout
  | manyKeys _ h => exact absurd hkeys.length_le (Nat.not_le.mpr h)
  | key _ _ h =>
    obtain ⟨key, hmem, herror⟩ := h.exists_error
    obtain ⟨k, -, hk⟩ := (exists_mem_of_forall₂ hkeys.resolves).1 key hmem
    cases herror.symm.trans hk

namespace QueryPlan

/-- What a plan of a request does: it selects by the filters, sorts by the keys and cuts out the page. -/
structure Resolves (plan : QueryPlan S t) (r : QueryRequest) (c : Config) (keep : S.Row t → Bool) : Prop where
  filters : FiltersPass t r c
  keys : KeysPass t r c plan.order.keys
  page : plan.pagination = .ofRequest r c.paging
  means : plan.filter.Means keep
  selects : ∀ row, keep row = true ↔ ∀ spec ∈ r.filters, spec.Selects c.filters.stringComparison t row

/-- A request has a fault, or a plan. -/
theorem ofRequest_cases (t : S.Entity) (r : QueryRequest) (c : Config) (s : Supply) :
    (∃ e, (ofRequest t r c s).1 = .error e ∧ RequestFault t r c e) ∨
      ∃ plan keep, (ofRequest t r c s).1 = .ok plan ∧ plan.Resolves r c keep := by
  rw [ofRequest, Fresh.bind_apply]
  rcases FilterConfig.select_cases t r c s with ⟨e, he, hfault⟩ | ⟨a, keep, ha, hfilters, hmeans, hselects⟩
  · rw [he]
    exact .inl ⟨e, rfl, hfault⟩
  rw [ha]
  rcases RowOrder.ofSpec_cases hfilters with ⟨e, he, hfault⟩ | ⟨keys, hkeys, hpass⟩
  · simp only [he]
    exact .inl ⟨e, rfl, hfault⟩
  · simp only [hkeys]
    exact .inr ⟨_, keep, rfl, hfilters, hpass, rfl, hmeans, hselects⟩

/-- A plan that a request is resolved to does what the request says. -/
theorem resolves_of_ofRequest {s : Supply} {plan : QueryPlan S t} (h : (ofRequest t r c s).1 = .ok plan) :
    ∃ keep, plan.Resolves r c keep := by
  rcases ofRequest_cases t r c s with ⟨e, he, -⟩ | ⟨plan', keep, hplan', hresolves⟩
  · cases he.symm.trans h
  · obtain rfl := Except.ok.inj (hplan'.symm.trans h)
    exact ⟨keep, hresolves⟩

/-- A request that passes all checks is resolved to a plan, whatever numbers are unused. -/
theorem exists_ofRequest (hfilters : FiltersPass t r c) {keys : List (OrderKey (S.Row t))}
    (hkeys : KeysPass t r c keys) (s : Supply) :
    ∃ plan keep, (ofRequest t r c s).1 = .ok plan ∧ plan.Resolves r c keep := by
  rcases ofRequest_cases t r c s with ⟨e, -, hfault⟩ | hplan
  · exact absurd hkeys (hfault.not_pass hfilters keys)
  · exact hplan

end QueryPlan

/-- The keys of a request are resolved in one way. -/
theorem KeysPass.unique {keys keys' : List (OrderKey (S.Row t))} (h : KeysPass t r c keys)
    (h' : KeysPass t r c keys') : keys = keys' := by
  have hunique : Relator.RightUnique fun (key : SortKey) (k : OrderKey (S.Row t)) => OrderKey.resolve t key = .ok k :=
    fun _ _ _ hk hk' => Except.ok.inj (hk.symm.trans hk')
  exact hunique.forall₂ h.resolves h'.resolves

/-! ### Requests for pages -/

namespace QueryRequest

/-- The request for a page. -/
def onPage (r : QueryRequest) (number size : Nat) : QueryRequest :=
  { r with skip := some (Pagination.page number size).skip, take := (Pagination.page number size).take }

/-- The rows that a request is answered with. -/
def answer (r : QueryRequest) (t : S.Entity) (c : Config) (s : Supply) (rows : List (S.Row t)) :
    Result (List (S.Row t)) := do
  let plan ← (QueryPlan.ofRequest t r c s).1
  let m ← plan.apply (.ofRows rows)
  .ok m.toList

/-- A page of a request that has a plan is that page of the sorted rows, whenever it is asked for. -/
theorem answer_onPage {plan : QueryPlan S t} {keep : S.Row t → Bool} (h : plan.Resolves r c keep)
    {rows sorted : List (S.Row t)} (hrows : rows.length < sizeBound)
    (hsorted : IsStableSort (RowOrder.compareRows plan.order.keys) (rows.filter keep) sorted) {size : Nat}
    (hsize : size ≤ c.paging.maxPageSize) (number : Nat) (s : Supply) :
    (r.onPage number size).answer t c s rows = .ok ((sorted.drop ((number - 1) * size)).take size) := by
  obtain ⟨plan', keep', hplan', h'⟩ := QueryPlan.exists_ofRequest (r := r.onPage number size)
    ⟨h.filters.length_le, h.filters.checks⟩ ⟨h.keys.length_le, h.keys.resolves⟩ s
  have hkeep : keep' = keep := by
    funext row
    rw [Bool.eq_iff_iff, h'.selects, h.selects]
    rfl
  have hkeys : plan'.order.keys = plan.order.keys :=
    h'.keys.unique ⟨h.keys.length_le, h.keys.resolves⟩
  obtain ⟨m, sorted', hm, hsorted', hm'⟩ := QueryPlan.apply_of_means h'.means rows
  rw [hkeep, hkeys] at hsorted'
  obtain rfl := hsorted'.unique hsorted
  have hlength : sorted'.length < sizeBound := by
    rw [hsorted.perm.length_eq]
    exact (List.length_filter_le keep rows).trans_lt hrows
  have hpage : plan'.pagination = ⟨(Pagination.page number size).skip, some size⟩ := by
    rw [h'.page]
    exact congrArg (fun n => Pagination.mk _ (some n)) (Nat.min_eq_left hsize)
  rw [hpage, RowSource.cut_page hlength] at hm'
  rw [answer, hplan', ← hm']
  show (plan'.apply (RowSource.ofRows rows) >>= fun m => Except.ok m.toList) = _
  rw [hm]
  rfl

end QueryRequest

namespace QueryPlan

/-- The pages of a request that has a plan divide what the plan selects and sorts. However often and whenever a page
is asked for, it has the same rows; the pages up to the last one, one after the other, are all rows that satisfy
the filters, sorted stably by the keys; and the pages after it are empty, even if they skip more rows than can be
counted. -/
theorem pages_partition {s : Supply} {plan : QueryPlan S t} (hplan : (ofRequest t r c s).1 = .ok plan)
    {rows : List (S.Row t)} (hrows : rows.length < sizeBound) {size : Nat} (hpos : 0 < size)
    (hsize : size ≤ c.paging.maxPageSize) :
    ∃ keep sorted page, KeysPass t r c plan.order.keys ∧
      (∀ row, keep row = true ↔ ∀ spec ∈ r.filters, spec.Selects c.filters.stringComparison t row) ∧
      IsStableSort (RowOrder.compareRows plan.order.keys) (rows.filter keep) sorted ∧
      (∀ number s', (r.onPage number size).answer t c s' rows = .ok (page number)) ∧
      (List.range' 1 ((rows.filter keep).length ⌈/⌉ size)).flatMap page = sorted ∧
      ∀ number, (rows.filter keep).length ⌈/⌉ size < number → page number = [] := by
  obtain ⟨keep, h⟩ := resolves_of_ofRequest hplan
  obtain ⟨sorted, hsorted⟩ : ∃ sorted,
      IsStableSort (RowOrder.compareRows plan.order.keys) (rows.filter keep) sorted :=
    ⟨_, RowSource.toList_isStableSort ⟨rows.filter keep, plan.order⟩⟩
  refine ⟨keep, sorted, fun number => (sorted.drop ((number - 1) * size)).take size, h.keys, h.selects, hsorted,
    QueryRequest.answer_onPage h hrows hsorted hsize, ?_⟩
  rw [← hsorted.perm.length_eq]
  refine ⟨RowSource.flatMap_pages hpos, fun number hnumber => ?_⟩
  show (sorted.drop ((number - 1) * size)).take size = []
  rw [RowSource.drop_of_lt hpos hnumber, List.take_nil]

/-- Three people by name are two pages of two, whatever order they were in, and the page with the largest number has
nobody. -/
theorem pages_partition_people :
    let r : QueryRequest := { sort := [⟨"Name", false, none⟩] }
    let rows := [People.bob, People.cleo, People.ada]
    ∃ page : Nat → List (People.schema.Row People.person),
      (∀ number s, (r.onPage number 2).answer People.person {} s rows = .ok (page number)) ∧
      page 1 ++ page 2 = [People.ada, People.bob, People.cleo] ∧ page (2 ^ 64 - 1) = [] := by
  intro r rows
  obtain ⟨plan, hplan⟩ : ∃ plan, (ofRequest People.person r {} {}).1 = .ok plan := ⟨_, rfl⟩
  have hrows : rows.length < sizeBound := by decide
  obtain ⟨keep, sorted, page, hkeys, hkeep, hsorted, hanswer, hpages, hafter⟩ :=
    pages_partition hplan hrows (show 0 < 2 by decide) (by decide)
  have hfilter : rows.filter keep = rows := List.filter_eq_self.mpr fun row _ => (hkeep row).mpr nofun
  have hname : plan.order.keys = [People.byName] := hkeys.unique ⟨by decide, .cons rfl .nil⟩
  rw [hname, hfilter] at hsorted
  have hperm : [People.ada, People.bob, People.cleo].Perm rows :=
    @List.perm_append_comm _ [People.ada] [People.bob, People.cleo]
  have hnames : sorted = [People.ada, People.bob, People.cleo] := hsorted.unique (.of_strict hperm (by decide))
  have hlast : rows.length ⌈/⌉ 2 = 2 := Nat.ceilDiv_eq_add_pred_div 3 2
  rw [hfilter, hlast] at hpages hafter
  refine ⟨page, hanswer, ?_, hafter _ (by decide)⟩
  rw [← hnames, ← hpages]
  exact congrArg (page 1 ++ ·) (List.append_nil (page 2)).symm

end QueryPlan

end EntityQuery

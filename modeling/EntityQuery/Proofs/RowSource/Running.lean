import EntityQuery.Proofs.Order.Sorting
import EntityQuery.Proofs.Predicate.Evaluation
import EntityQuery.RowSource

/-!
# Running sources of rows

A source of rows is filtered, ordered, cut and looked at step by step. A run fails only if it filters by a
specification that does not compile, and otherwise each step makes the next source (`RowSource.run_eq_ok_iff`).

What a user calls the current ordering is read off the steps alone: the keys from the latest step on that
orders anew (`ordering`). What a source keeps are the keys since it was looked at or cut, if that was later
(`pendingKeys`, `RowSource.foldl_next_pending`). The two are the same in a run that does not look at the rows
after it asked for keys of the current ordering (`Unobserved.pendingKeys_eq`).
-/

namespace EntityQuery

/-! ### The end of a list -/

section FromLatest

variable {α β : Type}

/-- The members from the latest one with a property on, or all members if there is none. -/
def fromLatest (p : α → Bool) : List α → List α
  | [] => []
  | a :: rest => if rest.any p then fromLatest p rest else a :: rest

variable {p : α → Bool} {f : α → Option β}

theorem fromLatest_append_singleton (p : α → Bool) (l : List α) (a : α) :
    fromLatest p (l ++ [a]) = if p a then [a] else fromLatest p l ++ [a] := by
  induction l with
  | nil => cases h : p a <;> rfl
  | cons b rest ih =>
    have hany : (rest ++ [a]).any p = (rest.any p || p a) := by
      rw [List.any_append, List.any_cons, List.any_nil, Bool.or_false]
    rw [List.cons_append, fromLatest, hany, ih, fromLatest]
    cases rest.any p <;> cases p a <;> rfl

theorem fromLatest_suffix (p : α → Bool) (l : List α) : fromLatest p l <:+ l := by
  induction l with
  | nil => exact List.suffix_rfl
  | cons a rest ih =>
    rw [fromLatest]
    split
    · exact ih.trans (List.suffix_cons a rest)
    · exact List.suffix_rfl

theorem fromLatest_eq_self {l : List α} (h : l.any p = false) : fromLatest p l = l := by
  cases l with
  | nil => rfl
  | cons a rest =>
    rw [List.any_cons, Bool.or_eq_false_iff] at h
    rw [fromLatest, if_neg (by simp [h.2])]

/-- What is read off the end of a list does not depend on a member off which nothing is read, if no end
begins with it. -/
theorem filterMap_fromLatest_skip {a : α} (hp : p a = false) (hf : f a = none) (before after : List α) :
    (fromLatest p (before ++ a :: after)).filterMap f = (fromLatest p (before ++ after)).filterMap f := by
  induction before with
  | nil =>
    rw [List.nil_append, List.nil_append, fromLatest]
    split
    · rfl
    · next h => rw [List.filterMap_cons_none hf, fromLatest_eq_self (Bool.eq_false_iff.mpr h)]
  | cons b rest ih =>
    have hany : (rest ++ a :: after).any p = (rest ++ after).any p := by
      rw [List.any_append, List.any_cons, hp, Bool.false_or, List.any_append]
    rw [List.cons_append, List.cons_append, fromLatest, fromLatest, hany]
    split
    · exact ih
    · simp [List.filterMap_append, List.filterMap_cons, hf]

end FromLatest

/-! ### Steps -/

/-- What can be asked of a source. -/
inductive SourceStep (S : Schema) (t : S.Entity) where
  | filter (a : Specification S t)
  | orderBy (k : OrderKey (S.Row t))
  | thenBy (k : OrderKey (S.Row t))
  | slice (skip : Nat) (take : Option Nat)
  /-- To look at the rows. -/
  | rows

variable {S : Schema} {t : S.Entity}

namespace SourceStep

/-- The rows are seen, or counted off. -/
def observes : SourceStep S t → Bool
  | slice _ _ | rows => true
  | filter _ | orderBy _ | thenBy _ => false

/-- The step begins a new ordering. -/
def ordersAnew : SourceStep S t → Bool
  | orderBy _ => true
  | _ => false

/-- The key that the step asks for. -/
def key? : SourceStep S t → Option (OrderKey (S.Row t))
  | orderBy k | thenBy k => some k
  | _ => none

/-- The specification that the step filters by, if any, is well formed. -/
def Compiles : SourceStep S t → Prop
  | filter a => a.Compiles
  | _ => True

/-- Whether the step keeps a row, wherever it stands. -/
def passes (r : S.Row t) : SourceStep S t → Bool
  | filter a => a.accepts r
  | _ => true

end SourceStep

open SourceStep

/-- The keys of the current ordering: those that were asked for since the latest order, it included. -/
def ordering (steps : List (SourceStep S t)) : List (OrderKey (S.Row t)) :=
  (fromLatest ordersAnew steps).filterMap key?

/-- The keys that were asked for since the latest order, and since the rows were last observed. -/
def pendingKeys (steps : List (SourceStep S t)) : List (OrderKey (S.Row t)) :=
  (fromLatest (fun s => s.ordersAnew || s.observes) steps).filterMap key?

/-- The rows were not observed after a key of the current ordering was asked for. -/
def Unobserved (steps : List (SourceStep S t)) : Prop :=
  (fromLatest ordersAnew steps).Pairwise fun s s' => s.key? = none ∨ s'.observes = false

/-- A filter has no part in the ordering. -/
theorem ordering_filter (a : Specification S t) (before after : List (SourceStep S t)) :
    ordering (before ++ .filter a :: after) = ordering (before ++ after) :=
  filterMap_fromLatest_skip rfl rfl before after

theorem ordering_append_singleton (steps : List (SourceStep S t)) (s : SourceStep S t) :
    ordering (steps ++ [s]) = if s.ordersAnew then s.key?.toList else ordering steps ++ s.key?.toList := by
  rw [ordering, fromLatest_append_singleton]
  cases s <;> simp [ordersAnew, key?, ordering]

theorem pendingKeys_append_singleton (steps : List (SourceStep S t)) (s : SourceStep S t) :
    pendingKeys (steps ++ [s]) =
      if s.ordersAnew || s.observes then s.key?.toList else pendingKeys steps ++ s.key?.toList := by
  rw [pendingKeys, fromLatest_append_singleton]
  cases s <;> simp [ordersAnew, observes, key?, pendingKeys]

/-- An ordering that was not observed is pending. -/
theorem Unobserved.pendingKeys_eq {steps : List (SourceStep S t)} (h : Unobserved steps) :
    pendingKeys steps = ordering steps := by
  induction steps using List.reverseRecOn with
  | nil => rfl
  | append_singleton steps s ih =>
    rw [pendingKeys_append_singleton, ordering_append_singleton]
    rw [Unobserved, fromLatest_append_singleton] at h
    cases hanew : s.ordersAnew with
    | true => rfl
    | false =>
      simp only [hanew, Bool.false_eq_true, if_false, List.pairwise_append] at h
      obtain ⟨hsteps, -, hlast⟩ := h
      cases hobs : s.observes with
      | false => simp [ih hsteps]
      | true =>
        -- no key of the current ordering is before an observation
        have hnone : ordering steps = [] := by
          refine List.filterMap_eq_nil_iff.mpr fun s' hs' => ?_
          rcases hlast s' hs' s (List.mem_singleton_self s) with hkey | hnot
          · exact hkey
          · rw [hobs] at hnot
            cases hnot
        simp [hnone]

/-- A run without observations has all of its ordering pending. -/
theorem unobserved_of_lazy {steps : List (SourceStep S t)} (h : ∀ s ∈ steps, s.observes = false) :
    Unobserved steps := by
  refine List.pairwise_of_forall_mem_list fun s _ s' hs' => ?_
  exact .inr (h s' ((fromLatest_suffix _ steps).mem hs'))

/-! ### Runs -/

namespace RowSource

variable {m m' : RowSource (S.Row t)}

/-- Takes a step. -/
def step (m : RowSource (S.Row t)) : SourceStep S t → Result (RowSource (S.Row t))
  | .filter a => m.filter a
  | .orderBy k => .ok (m.orderBy k)
  | .thenBy k => .ok (m.thenBy k)
  | .slice skip take => .ok (m.slice skip take)
  | .rows => .ok m.flush

/-- Takes steps one after the other. -/
def run (m : RowSource (S.Row t)) (steps : List (SourceStep S t)) : Result (RowSource (S.Row t)) :=
  steps.foldlM step m

/-- The source that a step makes if its specification compiles. -/
def next (m : RowSource (S.Row t)) : SourceStep S t → RowSource (S.Row t)
  | .filter a => m.retain a.accepts
  | .orderBy k => m.orderBy k
  | .thenBy k => m.thenBy k
  | .slice skip take => m.slice skip take
  | .rows => m.flush

/-- To filter is to keep the rows that the specification accepts. -/
theorem filter_eq_ok_iff {a : Specification S t} :
    m.filter a = .ok m' ↔ a.Compiles ∧ m' = m.retain a.accepts := by
  rw [filter, Specification.Compiles]
  cases hcompile : a.tree.compile with
  | error e => exact ⟨nofun, fun h => nomatch h.1⟩
  | ok code =>
    have haccepts : a.accepts = fun r => code ⟨t, r⟩ := by
      funext r
      rw [Specification.accepts, Specification.isSatisfiedBy, Tree.holds, hcompile]
      rfl
    rw [haccepts]
    constructor
    · intro h
      cases h
      exact ⟨⟨code, rfl⟩, rfl⟩
    · rintro ⟨-, rfl⟩
      rfl

theorem step_eq_ok_iff {s : SourceStep S t} : m.step s = .ok m' ↔ s.Compiles ∧ m' = m.next s := by
  cases s with
  | filter a => exact filter_eq_ok_iff
  | orderBy | thenBy | slice | rows =>
    exact ⟨fun h => ⟨trivial, (Except.ok.inj h).symm⟩, fun h => congrArg Except.ok h.2.symm⟩

/-- A run comes to its end exactly if all specifications in it compile. -/
theorem run_eq_ok_iff {steps : List (SourceStep S t)} :
    m.run steps = .ok m' ↔ (∀ s ∈ steps, s.Compiles) ∧ m' = steps.foldl next m := by
  induction steps generalizing m with
  | nil => exact ⟨fun h => ⟨nofun, (Except.ok.inj h).symm⟩, fun h => congrArg Except.ok h.2.symm⟩
  | cons s rest ih =>
    have hrun : m.run (s :: rest) = m.step s >>= fun u => u.run rest := List.foldlM_cons
    rw [hrun, bind_eq_ok_iff, List.forall_mem_cons, List.foldl_cons]
    constructor
    · rintro ⟨u, hu, hrest⟩
      obtain ⟨hs, rfl⟩ := step_eq_ok_iff.mp hu
      obtain ⟨hcompiles, hm'⟩ := ih.mp hrest
      exact ⟨⟨hs, hcompiles⟩, hm'⟩
    · rintro ⟨⟨hs, hcompiles⟩, hm'⟩
      exact ⟨m.next s, step_eq_ok_iff.mpr ⟨hs, rfl⟩, ih.mpr ⟨hcompiles, hm'⟩⟩

/-! ### What is pending -/

theorem flush_pending {ρ : Type} (m : RowSource ρ) : m.flush.pending.keys = [] := by
  rw [flush]
  split
  · next h => exact List.isEmpty_iff.mp h
  · rfl

/-- A step keeps the pending keys and adds its own, unless it orders anew or observes the rows. -/
theorem next_pending (m : RowSource (S.Row t)) (s : SourceStep S t) :
    (m.next s).pending.keys =
      if s.ordersAnew || s.observes then s.key?.toList else m.pending.keys ++ s.key?.toList := by
  cases s with
  | filter a => exact (List.append_nil _).symm
  | orderBy k => rfl
  | thenBy k => rfl
  | slice skip take => exact m.flush_pending
  | rows => exact m.flush_pending

/-- A run keeps the keys that were asked for since the latest order or observation. -/
theorem foldl_next_pending (rows : List (S.Row t)) (steps : List (SourceStep S t)) :
    (steps.foldl next (ofRows rows)).pending.keys = pendingKeys steps := by
  induction steps using List.reverseRecOn with
  | nil => rfl
  | append_singleton steps s ih =>
    rw [List.foldl_concat, next_pending, ih, pendingKeys_append_singleton]

/-- A run in which nothing is observed keeps, in their order, the rows that pass all of its filters. -/
theorem foldl_next_rows {steps : List (SourceStep S t)} (h : ∀ s ∈ steps, s.observes = false)
    (m : RowSource (S.Row t)) :
    (steps.foldl next m).rows = m.rows.filter fun r => steps.all (passes r) := by
  induction steps generalizing m with
  | nil => simp
  | cons s rest ih =>
    obtain ⟨hs, hrest⟩ := List.forall_mem_cons.mp h
    have hrows : (m.next s).rows = m.rows.filter fun r => passes r s := by
      cases s with
      | filter a => rfl
      | orderBy k | thenBy k => simp [next, orderBy, thenBy, passes]
      | slice | rows => cases hs
    rw [List.foldl_cons, ih hrest, hrows, List.filter_filter]
    simp only [List.all_cons, Bool.and_comm]

/-- The rows that are seen are the stable sort by the pending keys. -/
theorem toList_isStableSort {ρ : Type} (m : RowSource ρ) :
    IsStableSort (RowOrder.compareRows m.pending.keys) m.rows m.toList := by
  rw [toList, flush]
  split
  · next h =>
    -- without keys all rows tie
    rw [List.isEmpty_iff.mp h]
    exact .of_ordered (List.pairwise_of_forall fun _ _ => rfl)
  · exact m.pending.sort_isStableSort m.rows

/-! ### Orders of several keys -/

section Orders

variable {ρ : Type}

theorem foldl_thenBy (m : RowSource ρ) (ks : List (OrderKey ρ)) :
    ks.foldl thenBy m = { m with pending := ⟨m.pending.keys ++ ks⟩ } := by
  induction ks generalizing m with
  | nil => simp
  | cons k rest ih => simp [ih, thenBy, RowOrder.thenBy]

/-- Rows for which nothing is pending are sorted by the keys of an order, if there are any. -/
theorem orderByAll_ofRows (rows : List ρ) (o : RowOrder ρ) : (ofRows rows).orderByAll o = ⟨rows, o⟩ := by
  obtain ⟨keys⟩ := o
  cases keys with
  | nil => rfl
  | cons k rest => exact foldl_thenBy _ rest

end Orders

end RowSource

end EntityQuery

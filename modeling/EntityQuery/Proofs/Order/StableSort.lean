import Mathlib.Data.List.Basic
import Mathlib.Data.List.Perm.Basic

/-!
# Stable sorting

A list is a stable sort of another one if it is a permutation of it, is in ascending order, and has the
members that tie with each other in the order of the other list (`IsStableSort`). That determines the list
(`IsStableSort.unique`), so one may speak of the stable sort; merging computes it (`isStableSort_mergeSort`).

Removing members before or after sorting makes no difference (`IsStableSort.filter`). A comparison that
breaks the ties of another one sorts each class of tied members by itself, and leaves the classes where they
are (`IsStableSort.breaksTies`).
-/

namespace EntityQuery

open Std

variable {α : Type}

/-- Whether two members tie under a comparison. -/
def ties (cmp : α → α → Ordering) (a b : α) : Bool := cmp a b == .eq

/-- The list `sorted` is the stable sort of `source` under a comparison. -/
structure IsStableSort (cmp : α → α → Ordering) (source sorted : List α) : Prop where
  perm : sorted.Perm source
  ordered : sorted.Pairwise fun a b => (cmp a b).isLE = true
  /-- Members that tie keep the order that they have in the source. -/
  stable : ∀ a, sorted.filter (ties cmp a) = source.filter (ties cmp a)

/-- In `after`, the members of `before` are in the order of `cmp`, and each class of members that tie under
it is sorted by `cmp'`. -/
structure BreaksTies (cmp cmp' : α → α → Ordering) (before after : List α) : Prop where
  perm : after.Perm before
  /-- Members that differ keep their order. -/
  ordered : after.Pairwise fun a b => (cmp a b).isLE = true
  /-- Members that tie are sorted among themselves. -/
  sorted : ∀ a, IsStableSort cmp' (before.filter (ties cmp a)) (after.filter (ties cmp a))

variable {cmp cmp' : α → α → Ordering} {source sorted l l' : List α}

/-! ### Ties -/

theorem ties_iff {a b : α} : ties cmp a b = true ↔ cmp a b = .eq := beq_iff_eq

theorem ties_self [ReflCmp cmp] (a : α) : ties cmp a a = true := ties_iff.mpr ReflCmp.compare_self

/-- Members that tie tie with the same members. -/
theorem ties_congr [TransCmp cmp] {a b : α} (h : ties cmp a b = true) : ties cmp a = ties cmp b := by
  funext c
  rw [ties, ties, TransCmp.congr_left (ties_iff.mp h)]

/-- Members of one class tie with each other. -/
theorem cmp_eq_of_ties [TransCmp cmp] {a b c : α} (hb : ties cmp a b = true) (hc : ties cmp a c = true) :
    cmp b c = .eq := by
  rw [ties_congr hb] at hc
  exact ties_iff.mp hc

/-- To tie under both of two comparisons is to tie under the one that breaks ties by the other. -/
theorem ties_compareLex (a b : α) :
    ties (compareLex cmp cmp') a b = (ties cmp a b && ties cmp' a b) := by
  rw [Bool.eq_iff_iff, Bool.and_eq_true, ties_iff, ties_iff, ties_iff, compareLex, Ordering.then_eq_eq]

/-! ### There is one stable sort -/

theorem mem_of_filter_ties [ReflCmp cmp] (h : ∀ a, l.filter (ties cmp a) = l'.filter (ties cmp a))
    {a : α} (ha : a ∈ l) : a ∈ l' := by
  have hmem : a ∈ l.filter (ties cmp a) := List.mem_filter.mpr ⟨ha, ties_self a⟩
  rw [h] at hmem
  exact (List.mem_filter.mp hmem).1

/-- The head of an ordered list is not after any member. -/
theorem isLE_head [ReflCmp cmp] {a b : α} {rest : List α}
    (h : (a :: rest).Pairwise fun a b => (cmp a b).isLE = true) (hb : b ∈ a :: rest) :
    (cmp a b).isLE = true := by
  rcases List.mem_cons.mp hb with rfl | hb
  · exact ReflCmp.isLE_rfl
  · exact (List.pairwise_cons.mp h).1 b hb

/-- Ordered lists that agree on each class of ties are the same. -/
theorem eq_of_filter_ties [TransCmp cmp] (hl : l.Pairwise fun a b => (cmp a b).isLE = true)
    (hl' : l'.Pairwise fun a b => (cmp a b).isLE = true)
    (h : ∀ a, l.filter (ties cmp a) = l'.filter (ties cmp a)) : l = l' := by
  induction l generalizing l' with
  | nil =>
    cases l' with
    | nil => rfl
    | cons b rest' =>
      have hb : b ∈ [] := mem_of_filter_ties (fun a => (h a).symm) List.mem_cons_self
      cases hb
  | cons a rest ih =>
    cases l' with
    | nil =>
      have ha : a ∈ [] := mem_of_filter_ties h List.mem_cons_self
      cases ha
    | cons b rest' =>
      have hab : (cmp a b).isLE = true :=
        isLE_head hl (mem_of_filter_ties (fun a => (h a).symm) List.mem_cons_self)
      have hba : (cmp b a).isLE = true := isLE_head hl' (mem_of_filter_ties h List.mem_cons_self)
      have htie : ties cmp a b = true := ties_iff.mpr (OrientedCmp.isLE_antisymm hab hba)
      have hclass := h a
      rw [List.filter_cons_of_pos (ties_self a), List.filter_cons_of_pos htie] at hclass
      obtain rfl : a = b := (List.cons.inj hclass).1
      refine congrArg (a :: ·) (ih hl.of_cons hl'.of_cons fun c => ?_)
      have hc := h c
      rw [List.filter_cons, List.filter_cons] at hc
      split at hc
      · exact (List.cons.inj hc).2
      · exact hc

namespace IsStableSort

theorem unique [TransCmp cmp] {sorted' : List α} (h : IsStableSort cmp source sorted)
    (h' : IsStableSort cmp source sorted') : sorted = sorted' :=
  eq_of_filter_ties h.ordered h'.ordered fun a => (h.stable a).trans (h'.stable a).symm

/-- To remove members and to sort are independent of each other. -/
theorem filter (h : IsStableSort cmp source sorted) (p : α → Bool) :
    IsStableSort cmp (source.filter p) (sorted.filter p) where
  perm := h.perm.filter p
  ordered := h.ordered.filter p
  stable a := by
    rw [List.filter_comm, h.stable, List.filter_comm]

/-- A list that is in order is its own stable sort. -/
theorem of_ordered (h : source.Pairwise fun a b => (cmp a b).isLE = true) :
    IsStableSort cmp source source where
  perm := .refl _
  ordered := h
  stable _ := rfl

/-- A list in which no two members tie is the stable sort of its members, however they were ordered before. -/
theorem of_strict [TransCmp cmp] (hperm : sorted.Perm source) (h : sorted.Pairwise fun a b => cmp a b = .lt) :
    IsStableSort cmp source sorted where
  perm := hperm
  ordered := h.imp fun hlt => by rw [hlt]; rfl
  stable a := by
    have hclass := hperm.filter (ties cmp a)
    have hstrict := h.filter (ties cmp a)
    -- a class has at most one member, so its order does not matter
    match hmembers : sorted.filter (ties cmp a) with
    | [] =>
      rw [hmembers] at hclass
      exact hclass.nil_eq
    | [b] =>
      rw [hmembers] at hclass
      exact (List.perm_singleton.mp hclass.symm).symm
    | b :: c :: rest =>
      have hb : ties cmp a b = true := (List.mem_filter.mp (hmembers ▸ List.mem_cons_self)).2
      have hc : ties cmp a c = true :=
        (List.mem_filter.mp (hmembers ▸ List.mem_cons_of_mem b List.mem_cons_self)).2
      rw [hmembers] at hstrict
      cases (cmp_eq_of_ties hb hc).symm.trans ((List.pairwise_cons.mp hstrict).1 c List.mem_cons_self)

end IsStableSort

/-! ### Sorting again -/

/-- Of two members that tie, both belong to the class of the first. -/
theorem pair_sublist_filter_iff [ReflCmp cmp] {a b : α} (h : cmp a b = .eq) :
    [a, b].Sublist (l.filter (ties cmp a)) ↔ [a, b].Sublist l := by
  constructor
  · exact fun hsub => hsub.trans List.filter_sublist
  · intro hsub
    have hfilter := hsub.filter (ties cmp a)
    have hclass : [a, b].filter (ties cmp a) = [a, b] := by
      rw [List.filter_cons_of_pos (ties_self a), List.filter_cons_of_pos (ties_iff.mpr h), List.filter_nil]
    rwa [hclass] at hfilter

namespace IsStableSort

/-- One of two members that tie comes before the other exactly if it does in the source. -/
theorem pair_sublist_iff [ReflCmp cmp] (h : IsStableSort cmp source sorted) {a b : α} (hab : cmp a b = .eq) :
    [a, b].Sublist sorted ↔ [a, b].Sublist source := by
  rw [← pair_sublist_filter_iff hab, h.stable, pair_sublist_filter_iff hab]

/-- Sorting a sorted list keeps the order that it had where the new one ties. -/
theorem trans [ReflCmp cmp] {again : List α} (h' : IsStableSort cmp' source sorted)
    (h : IsStableSort cmp sorted again) : IsStableSort (compareLex cmp cmp') source again where
  perm := h.perm.trans h'.perm
  ordered := by
    refine List.pairwise_iff_forall_sublist.mpr fun {a b} hab => Ordering.isLE_then_iff_or.mpr ?_
    have hle := List.pairwise_iff_forall_sublist.mp h.ordered hab
    cases ho : cmp a b with
    | lt => exact .inl rfl
    | gt =>
      rw [ho] at hle
      cases hle
    | eq => exact .inr ⟨rfl, List.pairwise_iff_forall_sublist.mp h'.ordered ((h.pair_sublist_iff ho).mp hab)⟩
  stable a := by
    have hboth : ties (compareLex cmp cmp') a = fun b => ties cmp a b && ties cmp' a b :=
      funext (ties_compareLex a)
    rw [hboth, ← List.filter_filter, ← List.filter_filter, List.filter_comm, h.stable, List.filter_comm,
      h'.stable]

end IsStableSort

/-! ### Merging -/

theorem isLE_total [OrientedCmp cmp] (a b : α) : ((cmp a b).isLE || (cmp b a).isLE) = true := by
  rw [@OrientedCmp.eq_swap _ cmp _ b a]
  cases cmp a b <;> rfl

theorem isStableSort_mergeSort [TransCmp cmp] (source : List α) :
    IsStableSort cmp source (source.mergeSort fun a b => (cmp a b).isLE) where
  perm := List.mergeSort_perm _ _
  ordered := List.pairwise_mergeSort (fun _ _ _ => TransCmp.isLE_trans) isLE_total source
  stable a := by
    have hclass : (source.filter (ties cmp a)).Pairwise fun b c => (cmp b c).isLE = true := by
      refine List.pairwise_of_forall_mem_list fun b hb c hc => ?_
      rw [cmp_eq_of_ties (List.mem_filter.mp hb).2 (List.mem_filter.mp hc).2]
      rfl
    have hsub := (List.sublist_mergeSort (fun _ _ _ => TransCmp.isLE_trans) isLE_total hclass
      List.filter_sublist).filter (ties cmp a)
    simp only [List.filter_filter, Bool.and_self] at hsub
    exact (hsub.eq_of_length ((List.mergeSort_perm _ _).filter _).length_eq.symm).symm

/-! ### Breaking ties -/

namespace IsStableSort

variable {before after : List α}

/-- Members that tie under both comparisons keep their order. -/
theorem stable_both [TransCmp cmp] [TransCmp cmp'] (h : IsStableSort (compareLex cmp cmp') source after)
    (a b : α) : after.filter (fun c => ties cmp a c && ties cmp' b c) =
      source.filter fun c => ties cmp a c && ties cmp' b c := by
  by_cases hc : ∃ c ∈ source, (ties cmp a c && ties cmp' b c) = true
  · obtain ⟨c, -, hc⟩ := hc
    obtain ⟨hac, hbc⟩ := Bool.and_eq_true_iff.mp hc
    have hclass : (fun d => ties cmp a d && ties cmp' b d) = ties (compareLex cmp cmp') c := by
      funext d
      rw [ties_compareLex, ties_congr hac, ties_congr hbc]
    rw [hclass, h.stable]
  · have hsource : source.filter (fun c => ties cmp a c && ties cmp' b c) = [] :=
      List.filter_eq_nil_iff.mpr fun c hmem hboth => hc ⟨c, hmem, hboth⟩
    rw [hsource, List.filter_eq_nil_iff]
    exact fun c hmem hboth => hc ⟨c, h.perm.mem_iff.mp hmem, hboth⟩

theorem breaksTies [TransCmp cmp] [TransCmp cmp'] (h : IsStableSort cmp source before)
    (h' : IsStableSort (compareLex cmp cmp') source after) : BreaksTies cmp cmp' before after where
  perm := h'.perm.trans h.perm.symm
  ordered := h'.ordered.imp fun hab => by
    rcases Ordering.isLE_then_iff_or.mp hab with hlt | ⟨heq, -⟩
    · rw [hlt]
      rfl
    · rw [heq]
      rfl
  sorted a :=
    { perm := (h'.perm.trans h.perm.symm).filter _
      ordered := by
        refine (h'.ordered.filter (ties cmp a)).imp_of_mem fun {b c} hb hc hbc => ?_
        have htie : cmp b c = .eq := cmp_eq_of_ties (List.mem_filter.mp hb).2 (List.mem_filter.mp hc).2
        rwa [compareLex, htie] at hbc
      stable := fun b => by
        rw [h.stable, List.filter_filter, List.filter_filter]
        simp only [Bool.and_comm (ties cmp' b _)]
        exact h'.stable_both a b }

end IsStableSort

end EntityQuery

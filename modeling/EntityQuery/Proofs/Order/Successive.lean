import EntityQuery.Proofs.RowSource.Running

/-!
# Sorting by several keys

An order of several keys sorts rows as they are sorted key by key, the least important key first: what a key does
not tell apart stays as the later keys have put it (`RowOrder.sort_cons`, `RowOrder.sort_eq_foldr`). A source that
is ordered by the keys of a request shows its rows in that order (`RowSource.toList_orderByAll`). So it does not
matter how an order of several keys is brought about (`RowOrder.sort_successive`).
-/

namespace EntityQuery

namespace RowOrder

variable {ρ : Type}

/-- Rows tie if no key tells them apart. -/
theorem compareRows_eq_eq_iff {ks : List (OrderKey ρ)} {a b : ρ} :
    compareRows ks a b = .eq ↔ ∀ k ∈ ks, k.compare a b = .eq := by
  induction ks with
  | nil => simp [compareRows]
  | cons k rest ih => rw [compareRows, Ordering.then_eq_eq, ih, List.forall_mem_cons]

/-- Without keys all rows tie. -/
theorem sort_nil (rows : List ρ) : (⟨[]⟩ : RowOrder ρ).sort rows = rows :=
  (sort_isStableSort ⟨[]⟩ rows).unique (.of_ordered (List.pairwise_of_forall fun _ _ => rfl))

/-- The first key sorts, stably, what the further keys have sorted. -/
theorem sort_cons (k : OrderKey ρ) (ks : List (OrderKey ρ)) (rows : List ρ) :
    (⟨k :: ks⟩ : RowOrder ρ).sort rows =
      ((⟨ks⟩ : RowOrder ρ).sort rows).mergeSort fun a b => (k.compare a b).isLE := by
  have hrest := sort_isStableSort ⟨ks⟩ rows
  have hfirst : IsStableSort k.compare _ _ := isStableSort_mergeSort ((⟨ks⟩ : RowOrder ρ).sort rows)
  have hboth := sort_isStableSort ⟨k :: ks⟩ rows
  rw [compareRows_cons] at hboth
  exact hboth.unique (hrest.trans hfirst)

/-- Sorting by several keys is sorting by one after the other, from the last to the first. -/
theorem sort_eq_foldr (ks : List (OrderKey ρ)) (rows : List ρ) :
    (⟨ks⟩ : RowOrder ρ).sort rows =
      ks.foldr (fun k sorted => sorted.mergeSort fun a b => (k.compare a b).isLE) rows := by
  induction ks with
  | nil => exact sort_nil rows
  | cons k rest ih => rw [sort_cons, ih, List.foldr_cons]

end RowOrder

namespace RowSource

variable {ρ : Type}

/-- The rows of a source are seen in the order that is pending. -/
theorem toList_eq_sort (m : RowSource ρ) : m.toList = m.pending.sort m.rows :=
  m.toList_isStableSort.unique (m.pending.sort_isStableSort m.rows)

/-- Rows that are ordered by the first key, and then by each further one, are sorted by all of them. -/
theorem toList_orderByAll (rows : List ρ) (o : RowOrder ρ) :
    ((ofRows rows).orderByAll o).toList = o.sort rows := by
  rw [orderByAll_ofRows, toList_eq_sort]

end RowSource

/-- An order sorts rows stably, and rows that no key tells apart keep the order that they have in the source. This
is what is obtained by sorting stably by the last key, then by the one before it, and so on to the first, and
what is seen of a new source that is ordered by the keys. The keys may be those of a request. -/
theorem RowOrder.sort_successive {S : Schema} {t : S.Entity} (o : RowOrder (S.Row t)) (rows : List (S.Row t)) :
    IsStableSort o.compare rows (o.sort rows) ∧
    (∀ a b, (∀ k ∈ o.keys, k.compare a b = .eq) →
      ([a, b].Sublist (o.sort rows) ↔ [a, b].Sublist rows)) ∧
    o.sort rows = o.keys.foldr (fun k sorted => sorted.mergeSort fun a b => (k.compare a b).isLE) rows ∧
    ((RowSource.ofRows rows).orderByAll o).toList = o.sort rows ∧
    ∀ most spec, ((RowSource.ofRows rows).orderBySpec most spec).map RowSource.toList =
      (RowOrder.ofSpec most t spec).map fun o' => o'.sort rows := by
  have hsort := o.sort_isStableSort rows
  refine ⟨hsort, fun a b hab => hsort.pair_sublist_iff (compareRows_eq_eq_iff.mpr hab), sort_eq_foldr o.keys rows,
    RowSource.toList_orderByAll rows o, fun most spec => ?_⟩
  rw [RowSource.orderBySpec]
  cases RowOrder.ofSpec most t spec with
  | error e => rfl
  | ok o' => exact congrArg Except.ok (RowSource.toList_orderByAll rows o')

end EntityQuery

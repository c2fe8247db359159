import EntityQuery.Order.RowOrder
import EntityQuery.Proofs.Order.StableSort
import EntityQuery.Proofs.Value.TotalOrder

/-!
# Sorting rows

A sort key orders all rows, whatever their values are: it compares by where nulls go, and then by the order of
the property's family in its direction (`TransCmp OrderKey.compare`). So does any list of keys
(`TransCmp (RowOrder.compareRows ks)`), and an order sorts rows stably (`RowOrder.sort_isStableSort`).
-/

namespace EntityQuery

open Std

variable {ρ : Type}

/-! ### Keys -/

namespace OrderKey

/-- The side on which a key puts nulls, as a number for null and one for all values. -/
def nullRank (k : OrderKey ρ) (v : Value) : Nat :=
  match k.nulls, v.isNull with
  | .first, true | .last, false => 0
  | .first, false | .last, true => 1

/-- The order of a family in the direction of a key. -/
def directed (k : OrderKey ρ) (a b : Value) : Ordering :=
  if k.descending then k.property.type.family.compareValues b a
  else k.property.type.family.compareValues a b

/-- The order of a key's values in its direction. -/
instance (k : OrderKey ρ) : TransCmp k.directed := by
  by_cases h : k.descending
  · have hdirected : k.directed = fun a b => k.property.type.family.compareValues b a := by
      funext a b
      rw [directed, if_pos h]
    rw [hdirected]
    exact TransCmp.opposite
  · have hdirected : k.directed = k.property.type.family.compareValues := by
      funext a b
      rw [directed, if_neg h]
    rw [hdirected]
    infer_instance

theorem eq_null_of_isNull {v : Value} (h : v.isNull = true) : v = .null := by
  cases v with
  | null => rfl
  | bool | int | decimal | string | dateTime | uuid | list => cases h

/-- A key compares by where nulls go, and then in its direction. -/
theorem compareValues_eq (k : OrderKey ρ) (a b : Value) :
    k.compareValues a b = compareLex (compareOn k.nullRank) k.directed a b := by
  rw [compareLex, compareOn, nullRank, nullRank, compareValues]
  cases ha : a.isNull with
  | true =>
    cases hb : b.isNull with
    | true =>
      have hnull : k.directed .null .null = .eq := @ReflCmp.compare_self _ k.directed _ .null
      rw [eq_null_of_isNull ha, eq_null_of_isNull hb, hnull]
      cases k.nulls <;> rfl
    | false => cases k.nulls <;> rfl
  | false =>
    cases hb : b.isNull with
    | true => cases k.nulls <;> rfl
    | false =>
      have hdirected : k.directed a b =
          if k.descending then (k.property.type.family.compareValues a b).swap
          else k.property.type.family.compareValues a b := by
        rw [directed, @OrientedCmp.eq_swap _ k.property.type.family.compareValues _ b a]
      rw [hdirected]
      cases k.nulls <;> rfl

/-- The order of a key's values with nulls in their place. -/
instance (k : OrderKey ρ) : TransCmp k.compareValues := by
  have h : k.compareValues = compareLex (compareOn k.nullRank) k.directed :=
    funext fun a => funext fun b => k.compareValues_eq a b
  rw [h]
  infer_instance

/-- The order of rows by one key. -/
instance (k : OrderKey ρ) : TransCmp k.compare where
  eq_swap {a b} := @OrientedCmp.eq_swap _ k.compareValues _ (k.extract a) (k.extract b)
  isLE_trans {a b c} :=
    @TransCmp.isLE_trans _ k.compareValues _ (k.extract a) (k.extract b) (k.extract c)

end OrderKey

/-! ### Orders -/

namespace RowOrder

theorem compareRows_cons (k : OrderKey ρ) (ks : List (OrderKey ρ)) :
    compareRows (k :: ks) = compareLex k.compare (compareRows ks) := rfl

theorem compareRows_singleton (k : OrderKey ρ) : compareRows [k] = k.compare := by
  funext a b
  exact Ordering.then_eq

/-- Further keys break the ties of the first ones. -/
theorem compareRows_append (ks ls : List (OrderKey ρ)) :
    compareRows (ks ++ ls) = compareLex (compareRows ks) (compareRows ls) := by
  induction ks with
  | nil => rfl
  | cons k rest ih =>
    funext a b
    rw [List.cons_append, compareRows, ih, compareLex, compareLex, compareRows, Ordering.then_assoc]

/-- The order of rows by a list of keys. -/
instance (ks : List (OrderKey ρ)) : TransCmp (compareRows ks) := by
  induction ks with
  | nil => exact { eq_swap := rfl, isLE_trans := fun _ _ => rfl }
  | cons k rest ih =>
    rw [compareRows_cons]
    infer_instance

/-- Sorting rows with the values they are sorted by is sorting rows. -/
theorem sort_eq_mergeSort (o : RowOrder ρ) (rows : List ρ) :
    o.sort rows = rows.mergeSort fun a b => (compareRows o.keys a b).isLE := by
  have h : (rows.mergeSort fun a b => (compareRows o.keys a b).isLE).map o.decorate =
      (rows.map o.decorate).mergeSort fun a b => (o.compareValues a.1 b.1).isLE := by
    refine List.map_mergeSort fun a _ b _ => ?_
    rw [decorate, decorate, compareValues_extract, compare]
  rw [sort, ← h, List.map_map]
  exact List.map_id' _

/-- An order sorts rows stably. -/
theorem sort_isStableSort (o : RowOrder ρ) (rows : List ρ) :
    IsStableSort (compareRows o.keys) rows (o.sort rows) := by
  rw [sort_eq_mergeSort]
  exact isStableSort_mergeSort rows

end RowOrder

end EntityQuery

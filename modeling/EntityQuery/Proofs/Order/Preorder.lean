import EntityQuery.Proofs.Order.Sorting

/-!
# Orders of rows

Every order of rows is a total preorder, whatever values the rows hold: a row ties with itself, to compare the
other way round is to turn the outcome round, and what is not after another is not after what follows it
(`RowOrder.compare_preorder`). Two rows compare as they do under the first key that tells them apart
(`RowOrder.compareRows_eq_find?`).

A key may be turned round, nulls included (`OrderKey.reverse`). A key that is requested in descending order, and
does not say where nulls go, is the ascending one turned round (`OrderKey.resolve_descending`).
-/

namespace EntityQuery

open Std

/-! ### Keys -/

/-- Nulls on the other side. -/
def NullsOrder.opposite : NullsOrder → NullsOrder
  | first => last
  | last => first

namespace OrderKey

variable {ρ : Type}

/-- The key in the other direction, with nulls on the other side. -/
def reverse (k : OrderKey ρ) : OrderKey ρ :=
  { k with descending := !k.descending, nulls := k.nulls.opposite }

theorem nullSide_opposite (n : NullsOrder) : nullSide n.opposite = (nullSide n).swap := by
  cases n <;> rfl

theorem compareValues_reverse (k : OrderKey ρ) (v w : Value) :
    k.reverse.compareValues v w = (k.compareValues v w).swap := by
  have hside : nullSide k.reverse.nulls = (nullSide k.nulls).swap := nullSide_opposite k.nulls
  rw [compareValues, compareValues, hside]
  cases v.isNull with
  | true => cases w.isNull <;> rfl
  | false =>
    cases w.isNull with
    | true => rfl
    | false =>
      rw [reverse]
      cases k.descending with
      | true => exact (Ordering.swap_swap).symm
      | false => rfl

theorem compare_reverse (k : OrderKey ρ) (a b : ρ) : k.reverse.compare a b = (k.compare a b).swap :=
  k.compareValues_reverse _ _

variable {S : Schema}

/-- By itself, a descending key is the ascending one turned round. -/
theorem resolve_descending (t : S.Entity) (name : String) :
    resolve t ⟨name, true, none⟩ = (resolve t ⟨name, false, none⟩).map reverse := by
  rw [resolve, resolve]
  cases (S.metadata t).resolve name with
  | error e => rfl
  | ok p =>
    show ite _ _ _ = (ite _ _ _ : Result _).map reverse
    split <;> rfl

end OrderKey

/-! ### Orders -/

namespace RowOrder

variable {ρ : Type}

/-- The first key that tells two rows apart decides. -/
theorem compareRows_eq_find? (ks : List (OrderKey ρ)) (a b : ρ) :
    compareRows ks a b = ((ks.map fun k => k.compare a b).find? (· != .eq)).getD .eq := by
  induction ks with
  | nil => rfl
  | cons k rest ih =>
    rw [compareRows, List.map_cons, List.find?_cons, ih]
    cases k.compare a b <;> rfl

/-- Any rows are ordered by any keys: a row ties with itself, comparing the other way round turns the outcome
round, and what is not after another row is not after those that the other is not after. Rows compare as the
values do that they are sorted by, and as the first key says that tells them apart. A key that is descending,
and does not say where nulls go, compares as the ascending one the other way round. -/
theorem compare_preorder {S : Schema} {t : S.Entity} (o : RowOrder (S.Row t)) (a b c : S.Row t) :
    o.compare a a = .eq ∧
    o.compare b a = (o.compare a b).swap ∧
    ((o.compare a b).isLE = true → (o.compare b c).isLE = true → (o.compare a c).isLE = true) ∧
    o.compareValues (o.extract a) (o.extract b) = o.compare a b ∧
    o.compare a b = ((o.keys.map fun k => k.compare a b).find? (· != .eq)).getD .eq ∧
    ∀ name, (OrderKey.resolve t ⟨name, true, none⟩).map (fun k => k.compare a b) =
      (OrderKey.resolve t ⟨name, false, none⟩).map fun k => (k.compare a b).swap := by
  refine ⟨?_, ?_, ?_, o.compareValues_extract a b, compareRows_eq_find? o.keys a b, fun name => ?_⟩
  · exact @ReflCmp.compare_self _ (compareRows o.keys) _ a
  · exact @OrientedCmp.eq_swap _ (compareRows o.keys) _ b a
  · exact @TransCmp.isLE_trans _ (compareRows o.keys) _ a b c
  · rw [OrderKey.resolve_descending]
    cases OrderKey.resolve t ⟨name, false, none⟩ with
    | error e => rfl
    | ok k => exact congrArg Except.ok (k.compare_reverse a b)

end RowOrder

end EntityQuery

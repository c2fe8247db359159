import EntityQuery.Order.Key
import EntityQuery.Proofs.Value.Comparison
import Mathlib.Algebra.Order.Field.Rat
import Mathlib.Order.Compare
import Mathlib.Order.Monotone.Basic
import Mathlib.Tactic.FieldSimp
import Mathlib.Tactic.Positivity

/-!
# The total order of values

Sorting needs an order in which any two values have a place, whatever their families. The total order of
values is one up to ties (`TransCmp Value.compareTotal`): kinds are ordered by rank, and values of one kind
by what they hold. Decimals are ordered by the rational numbers that they denote
(`Decimal.compare_eq_compare_value`).

A property of numbers compares an integer with a decimal by value, and everything else as the total order
does. That is the total order again, of values in which every integer is written as a decimal
(`Family.compareValues_eq`).
-/

namespace EntityQuery

open Std

/-! ### Single kinds -/

namespace Decimal

/-- The rational number that a decimal denotes. -/
def value (d : Decimal) : ℚ := d.signed / 10 ^ d.scale

/-- Decimals are compared by the rational numbers that they denote. -/
theorem compare_eq_compare_value (a b : Decimal) : a.compare b = Ord.compare a.value b.value := by
  have ha : (0 : ℚ) < 10 ^ a.scale := by positivity
  have hb : (0 : ℚ) < 10 ^ b.scale := by positivity
  let f : ℤ → ℚ := fun n => n / (10 ^ a.scale * 10 ^ b.scale)
  have hf : StrictMono f := by
    intro m n h
    have hmn : (m : ℚ) < n := Int.cast_lt.mpr h
    exact div_lt_div_of_pos_right hmn (mul_pos ha hb)
  have hfa : f (a.signed * Nat.pow 10 b.scale) = a.value := by
    simp only [f, value, Nat.pow_eq]
    push_cast
    field_simp
  have hfb : f (b.signed * Nat.pow 10 a.scale) = b.value := by
    simp only [f, value, Nat.pow_eq]
    push_cast
    field_simp
  rw [compare, ← cmp_eq_compare, ← cmp_eq_compare, ← hfa, ← hfb, hf.cmp_map_eq]

/-- The order of decimals by what they denote. -/
instance : TransCmp compare where
  eq_swap {a b} := (compare_swap b a).symm
  isLE_trans {a b c} hab hbc := by
    rw [compare_eq_compare_value] at hab hbc ⊢
    exact TransOrd.isLE_trans hab hbc

/-- An integer is written as a decimal without changing its place among the integers. -/
theorem compare_ofInt64 (i j : Int64) :
    (ofInt64 i).compare (ofInt64 j) = Ord.compare i.toInt j.toInt := by
  simp [compare]

end Decimal

/-- The order of moments by day, second and nanosecond. -/
instance : TransOrd Timestamp :=
  inferInstanceAs (TransCmp (compareLex (compareOn Timestamp.days)
    (compareLex (compareOn Timestamp.seconds) (compareOn Timestamp.nanos))))

/-- The order of identifiers by their bits. -/
instance : TransOrd Uuid :=
  inferInstanceAs (TransCmp (compareOn fun u : Uuid => u.bits.toNat))

namespace Value

/-! ### Kinds -/

/-- Induction over values, in which every item of a list satisfies the hypothesis. -/
theorem induct {motive : Value → Prop} (scalar : ∀ v, (∀ items, v ≠ .list items) → motive v)
    (list : ∀ items, (∀ v ∈ items, motive v) → motive (.list items)) (v : Value) : motive v :=
  @Value.rec motive (fun items => ∀ v ∈ items, motive v) (scalar _ nofun) (fun _ => scalar _ nofun)
    (fun _ => scalar _ nofun) (fun _ => scalar _ nofun) (fun _ => scalar _ nofun)
    (fun _ => scalar _ nofun) (fun _ => scalar _ nofun) list (by simp)
    (fun _ _ hv hvs => by simpa using ⟨hv, hvs⟩) v

/-- Two values are of one kind. -/
inductive SameKind : Value → Value → Prop where
  | null : SameKind .null .null
  | bool (a b : Bool) : SameKind (.bool a) (.bool b)
  | int (a b : Int64) : SameKind (.int a) (.int b)
  | decimal (a b : Decimal) : SameKind (.decimal a) (.decimal b)
  | string (a b : String) : SameKind (.string a) (.string b)
  | dateTime (a b : Timestamp) : SameKind (.dateTime a) (.dateTime b)
  | uuid (a b : Uuid) : SameKind (.uuid a) (.uuid b)
  | list (as bs : List Value) : SameKind (.list as) (.list bs)

theorem sameKind_of_rank_eq {a b : Value} (h : a.rank = b.rank) : SameKind a b := by
  cases a <;> cases b <;> first | constructor | cases h

/-- Values of different kinds are ordered by their kinds. -/
theorem compareTotal_of_rank_ne {a b : Value} (h : a.rank ≠ b.rank) :
    a.compareTotal b = compare a.rank b.rank := by
  cases a <;> cases b <;> first | exact absurd rfl h | rfl

/-! ### The other way round -/

theorem compareItems_swap {as : List Value}
    (h : ∀ a ∈ as, ∀ b, (a.compareTotal b).swap = b.compareTotal a) (bs : List Value) :
    (compareItems as bs).swap = compareItems bs as := by
  induction as generalizing bs with
  | nil => cases bs <;> rfl
  | cons a rest ih =>
    cases bs with
    | nil => rfl
    | cons b bs =>
      obtain ⟨ha, hrest⟩ := List.forall_mem_cons.mp h
      rw [compareItems, compareItems, Ordering.swap_then, ha, ih hrest]

theorem compareTotal_swap (a b : Value) : (a.compareTotal b).swap = b.compareTotal a := by
  induction a using Value.induct generalizing b with
  | scalar a ha =>
    by_cases h : a.rank = b.rank
    · cases sameKind_of_rank_eq h with
      | null => rfl
      | bool | int | string => exact OrientedOrd.eq_swap.symm
      | decimal => exact Decimal.compare_swap ..
      | dateTime => exact Timestamp.compare_swap ..
      | uuid => exact Uuid.compare_swap ..
      | list as bs => exact absurd rfl (ha as)
    · rw [compareTotal_of_rank_ne h, compareTotal_of_rank_ne (Ne.symm h), ← OrientedOrd.eq_swap]
  | list items ih =>
    by_cases h : (list items).rank = b.rank
    · cases sameKind_of_rank_eq h with
      | list as bs => exact compareItems_swap ih bs
    · rw [compareTotal_of_rank_ne h, compareTotal_of_rank_ne (Ne.symm h), ← OrientedOrd.eq_swap]

/-! ### Chains -/

/-- Along an ascending chain, the ends compare as the first step does, or as the second if the first is
a tie. -/
theorem cmp_eq_then {α : Type} (cmp : α → α → Ordering) [TransCmp cmp] {a b c : α}
    (hab : (cmp a b).isLE = true) (hbc : (cmp b c).isLE = true) :
    cmp a c = (cmp a b).then (cmp b c) := by
  cases h : cmp a b with
  | lt => exact TransCmp.lt_of_lt_of_isLE h hbc
  | eq => exact TransCmp.congr_left h
  | gt =>
    rw [h] at hab
    cases hab

/-- Chains of first members and chains of what breaks their ties make chains together. -/
theorem then_then_eq {o o' p p' q : Ordering} (h : (o.then p).isLE = true)
    (h' : (o'.then p').isLE = true) (hq : p.isLE = true → p'.isLE = true → q = p.then p') :
    (o.then o').then q = (o.then p).then (o'.then p') := by
  cases o with
  | gt => cases h
  | lt => rfl
  | eq =>
    cases o' with
    | gt => cases h'
    | lt => cases p <;> first | rfl | cases h
    | eq => exact hq h h'

theorem isLE_of_isLE_then {o p : Ordering} (h : (o.then p).isLE = true) : o.isLE = true := by
  cases o with
  | lt | eq => rfl
  | gt => cases h

theorem rank_le_of_isLE {a b : Value} (h : (a.compareTotal b).isLE = true) : a.rank ≤ b.rank := by
  by_cases hr : a.rank = b.rank
  · exact hr.le
  · rw [compareTotal_of_rank_ne hr, Nat.isLE_compare] at h
    exact h

/-- Between values of different kinds, one step of an ascending chain is strict. -/
theorem compareTotal_eq_then_of_rank_ne {a b c : Value} (h : a.rank ≠ c.rank)
    (hab : (a.compareTotal b).isLE = true) (hbc : (b.compareTotal c).isLE = true) :
    a.compareTotal c = (a.compareTotal b).then (b.compareTotal c) := by
  have hle := rank_le_of_isLE hab
  have hle' := rank_le_of_isLE hbc
  have hac : a.compareTotal c = .lt := by
    rw [compareTotal_of_rank_ne h]
    exact Nat.compare_eq_lt.mpr (by omega)
  rw [hac]
  by_cases hr : a.rank = b.rank
  · have hlt : b.compareTotal c = .lt := by
      rw [compareTotal_of_rank_ne (by omega)]
      exact Nat.compare_eq_lt.mpr (by omega)
    rw [hlt]
    cases ho : a.compareTotal b with
    | lt | eq => rfl
    | gt =>
      rw [ho] at hab
      cases hab
  · have hlt : a.compareTotal b = .lt := by
      rw [compareTotal_of_rank_ne hr]
      exact Nat.compare_eq_lt.mpr (by omega)
    rw [hlt]
    rfl

theorem compareItems_eq_then {as bs cs : List Value}
    (h : ∀ a ∈ as, ∀ b c, (a.compareTotal b).isLE = true → (b.compareTotal c).isLE = true →
      a.compareTotal c = (a.compareTotal b).then (b.compareTotal c))
    (hab : (compareItems as bs).isLE = true) (hbc : (compareItems bs cs).isLE = true) :
    compareItems as cs = (compareItems as bs).then (compareItems bs cs) := by
  induction as generalizing bs cs with
  | nil => cases bs <;> cases cs <;> first | rfl | cases hbc
  | cons a rest ih =>
    cases bs with
    | nil => cases hab
    | cons b bs =>
      cases cs with
      | nil => cases hbc
      | cons c cs =>
        obtain ⟨ha, hrest⟩ := List.forall_mem_cons.mp h
        rw [compareItems] at hab hbc
        rw [compareItems, compareItems, compareItems,
          ha b c (isLE_of_isLE_then hab) (isLE_of_isLE_then hbc)]
        exact then_then_eq hab hbc (ih hrest)

theorem compareTotal_eq_then {a b c : Value} (hab : (a.compareTotal b).isLE = true)
    (hbc : (b.compareTotal c).isLE = true) :
    a.compareTotal c = (a.compareTotal b).then (b.compareTotal c) := by
  induction a using Value.induct generalizing b c with
  | scalar a ha =>
    by_cases hr : a.rank = c.rank
    · have hle := rank_le_of_isLE hab
      have hle' := rank_le_of_isLE hbc
      have hkind' : SameKind b c := sameKind_of_rank_eq (by omega)
      cases sameKind_of_rank_eq (show a.rank = b.rank by omega) with
      | list as bs => exact absurd rfl (ha as)
      | null =>
        cases hkind'
        rfl
      | decimal =>
        cases hkind'
        exact cmp_eq_then Decimal.compare hab hbc
      | bool | string | dateTime | uuid =>
        cases hkind'
        exact cmp_eq_then compare hab hbc
      | int i j =>
        cases hkind' with
        | int j k => exact cmp_eq_then (compareOn Int64.toInt) hab hbc
    · exact compareTotal_eq_then_of_rank_ne hr hab hbc
  | list items ih =>
    by_cases hr : (list items).rank = c.rank
    · have hle := rank_le_of_isLE hab
      have hle' := rank_le_of_isLE hbc
      have hkind' : SameKind b c := sameKind_of_rank_eq (by omega)
      cases sameKind_of_rank_eq (show (list items).rank = b.rank by omega) with
      | list as bs =>
        cases hkind' with
        | list bs cs => exact compareItems_eq_then (fun a ha b c => ih a ha) hab hbc
    · exact compareTotal_eq_then_of_rank_ne hr hab hbc

/-- The order of all values by kind first. -/
instance : TransCmp compareTotal where
  eq_swap {a b} := (compareTotal_swap b a).symm
  isLE_trans {a b c} hab hbc := by
    rw [compareTotal_eq_then hab hbc]
    cases h : a.compareTotal b with
    | lt => rfl
    | eq => exact hbc
    | gt =>
      rw [h] at hab
      cases hab

/-! ### Numbers -/

/-- The value with an integer written as a decimal. -/
def withDecimals : Value → Value
  | int i => decimal (.ofInt64 i)
  | v => v

/-- The partial order, where values can be compared, is the total order of values with integers written as
decimals; and where they cannot be compared, writing them so changes nothing. -/
theorem getD_compare? (a b : Value) :
    (a.compare? b).getD (a.compareTotal b) = a.withDecimals.compareTotal b.withDecimals := by
  cases a <;> cases b <;>
    first
    | rfl
    | exact (Decimal.compare_ofInt64 _ _).symm

end Value

namespace Family

open Value

/-- The order of a family is the total order, for numbers with every integer written as a decimal. -/
theorem compareValues_eq (f : Family) (a b : Value) :
    f.compareValues a b =
      if f.isNumber then a.withDecimals.compareTotal b.withDecimals else a.compareTotal b := by
  cases f with
  | integer | decimal => exact getD_compare? a b
  | string | boolean | dateTime | uuid => rfl

/-- The order in which a family's values are sorted. -/
instance (f : Family) : TransCmp f.compareValues where
  eq_swap {a b} := by
    rw [compareValues_eq, compareValues_eq]
    split <;> exact OrientedCmp.eq_swap
  isLE_trans {a b c} hab hbc := by
    rw [compareValues_eq] at hab hbc ⊢
    split
    · rename_i hf
      rw [if_pos hf] at hab hbc
      exact TransCmp.isLE_trans hab hbc
    · rename_i hf
      rw [if_neg hf] at hab hbc
      exact TransCmp.isLE_trans hab hbc

end Family

end EntityQuery

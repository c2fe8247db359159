import EntityQuery.Value.Basic

/-!
# The partial order of values

Comparing values the other way round turns the outcome round (`Value.compare?_swap`), so equality does not
depend on the side (`Value.looseEq_comm`). Two values are comparable exactly if their families are, that is
if they are of one family or both are numbers (`Value.compare?_isSome_iff`). A value is a default if it is
null, the empty list, or equal to the value that its family starts from (`Value.isDefault_iff`).
-/

namespace EntityQuery

open Std

/-! ### Single kinds -/

theorem Decimal.compare_swap (a b : Decimal) : (a.compare b).swap = b.compare a :=
  OrientedOrd.eq_swap.symm

/-- Only a zero equals zero. -/
theorem Decimal.compare_zero_iff (d : Decimal) : d.compare .zero = .eq ↔ d.signed = 0 := by
  have hs : Decimal.zero.signed = 0 := rfl
  have hc : Decimal.zero.scale = 0 := rfl
  rw [Decimal.compare, LawfulEqOrd.compare_eq_iff_eq, hs, hc]
  simp

theorem Timestamp.compare_swap (a b : Timestamp) : (compare a b).swap = compare b a := by
  show (Ordering.then _ (Ordering.then _ _)).swap = Ordering.then _ (Ordering.then _ _)
  rw [Ordering.swap_then, Ordering.swap_then, ← OrientedOrd.eq_swap, ← OrientedOrd.eq_swap,
    ← OrientedOrd.eq_swap]

theorem Timestamp.compare_eq_eq_iff {a b : Timestamp} : compare a b = .eq ↔ a = b := by
  have h : compare a b = (compare a.days b.days).then
      ((compare a.seconds b.seconds).then (compare a.nanos b.nanos)) := rfl
  rw [h, Ordering.then_eq_eq, Ordering.then_eq_eq, LawfulEqOrd.compare_eq_iff_eq,
    LawfulEqOrd.compare_eq_iff_eq, LawfulEqOrd.compare_eq_iff_eq]
  constructor
  · rintro ⟨hd, hs, hn⟩
    cases a
    cases b
    simp_all
  · rintro rfl
    exact ⟨rfl, rfl, rfl⟩

theorem Uuid.compare_swap (a b : Uuid) : (compare a b).swap = compare b a := by
  have h : ∀ c d : Uuid, compare c d = compare c.bits.toNat d.bits.toNat := fun _ _ => rfl
  rw [h, h, ← OrientedOrd.eq_swap]

theorem Uuid.compare_eq_eq_iff {a b : Uuid} : compare a b = .eq ↔ a = b := by
  have h : compare a b = compare a.bits.toNat b.bits.toNat := rfl
  rw [h, LawfulEqOrd.compare_eq_iff_eq]
  constructor
  · intro hb
    cases a
    cases b
    exact congrArg Uuid.mk (BitVec.eq_of_toNat_eq hb)
  · rintro rfl
    rfl

namespace Value

/-! ### The other way round -/

/-- To compare the other way round is to turn the outcome round. -/
theorem compare?_swap (a b : Value) : (a.compare? b).map Ordering.swap = b.compare? a := by
  unfold compare?
  split
  · exact congrArg some OrientedOrd.eq_swap.symm
  · exact congrArg some OrientedOrd.eq_swap.symm
  · exact congrArg some (Decimal.compare_swap ..)
  · exact congrArg some (Decimal.compare_swap ..)
  · exact congrArg some (Decimal.compare_swap ..)
  · exact congrArg some OrientedOrd.eq_swap.symm
  · exact congrArg some (Timestamp.compare_swap ..)
  · exact congrArg some (Uuid.compare_swap ..)
  · split <;> simp_all

theorem compare?_eq_some_swap_iff {a b : Value} {o : Ordering} :
    a.compare? b = some o.swap ↔ b.compare? a = some o := by
  rw [← compare?_swap b a, Option.map_eq_some_iff]
  constructor
  · rintro ⟨o', h, ho⟩
    obtain rfl : o' = o := by
      rw [← Ordering.swap_swap (o := o'), ho, Ordering.swap_swap]
    exact h
  · intro h
    exact ⟨o, h, rfl⟩

/-- Equality does not depend on the side. -/
theorem looseEq_comm (a b : Value) : a.looseEq b = b.looseEq a := by
  rw [Bool.eq_iff_iff, looseEq_iff, looseEq_iff]
  exact compare?_eq_some_swap_iff (o := .eq)

theorem looseEq_string_iff {s t : String} : (string s).looseEq (string t) = true ↔ s = t := by
  rw [looseEq_iff, compare?, Option.some.injEq, LawfulEqOrd.compare_eq_iff_eq]

/-- One value is not after the other. -/
def NotAfter (a b : Value) : Prop := a.compare? b = some .lt ∨ a.compare? b = some .eq

theorem lte_holds_iff {a b : Value} :
    (a.compare? b == some .lt || a.compare? b == some .eq) = true ↔ a.NotAfter b := by
  rw [Bool.or_eq_true, beq_iff_eq, beq_iff_eq, NotAfter]

theorem gte_holds_iff {a b : Value} :
    (a.compare? b == some .gt || a.compare? b == some .eq) = true ↔ b.NotAfter a := by
  rw [Bool.or_eq_true, beq_iff_eq, beq_iff_eq, NotAfter]
  exact or_congr (compare?_eq_some_swap_iff (o := .lt)) (compare?_eq_some_swap_iff (o := .eq))

end Value

/-! ### Comparable families -/

namespace Family

/-- Whether the values are numbers. -/
def isNumber : Family → Bool
  | integer | decimal => true
  | _ => false

/-- Values of the families can be compared: the families are one, or both are of numbers. -/
def Comparable (f g : Family) : Prop := f = g ∨ (f.isNumber = true ∧ g.isNumber = true)

end Family

namespace Value

theorem compare?_isSome_iff {a b : Value} :
    (a.compare? b).isSome = true ↔
      ∃ f g, a.family? = some f ∧ b.family? = some g ∧ f.Comparable g := by
  cases a <;> cases b <;> simp [compare?, family?, Family.Comparable, Family.isNumber]

/-! ### Defaults -/

/-- A value is a default if it is null, the empty list, or equal to what its family starts from. -/
theorem isDefault_iff {v : Value} :
    v.isDefault = true ↔
      v = .null ∨ v = .list [] ∨ ∃ f, v.family? = some f ∧ v.looseEq f.defaultValue = true := by
  cases v with
  | null => simp [isDefault]
  | list items => cases items <;> simp [isDefault, family?]
  | bool b => cases b <;> simp [isDefault, family?, looseEq, compare?, Family.defaultValue]
  | int i =>
    simp only [isDefault, family?, Option.some.injEq, looseEq_iff, Family.defaultValue, compare?,
      exists_eq_left', reduceCtorEq, false_or, beq_iff_eq, LawfulEqOrd.compare_eq_iff_eq]
    exact Int64.toInt_inj.symm
  | decimal d =>
    simp only [isDefault, family?, Option.some.injEq, looseEq_iff, Family.defaultValue, compare?,
      exists_eq_left', reduceCtorEq, false_or]
    rw [Decimal.isZero_iff_signed_eq_zero, Decimal.compare_zero_iff]
  | string s => simp [isDefault, family?, looseEq_iff, compare?, Family.defaultValue]
  | dateTime t =>
    simp only [isDefault, family?, Option.some.injEq, looseEq_iff, Family.defaultValue, compare?,
      exists_eq_left', reduceCtorEq, false_or, beq_iff_eq, Timestamp.compare_eq_eq_iff]
  | uuid u =>
    simp only [isDefault, family?, Option.some.injEq, looseEq_iff, Family.defaultValue, compare?,
      exists_eq_left', reduceCtorEq, false_or, beq_iff_eq, Uuid.compare_eq_eq_iff]

end Value

end EntityQuery

import EntityQuery.Expr.Code
import EntityQuery.Proofs.Value.TotalOrder

/-!
# The order of comparable values is exact

Values are comparable if neither is null or a list, and they are of one family or both numbers
(`Value.Comparable`). This divides the values that are compared at all into classes, and on each class the
partial order is the total order with integers written as decimals (`Value.compare?_eq_some_iff`). So it is
transitive, from integers to decimals and back (`Value.compare?_trans`), and numbers are in the order of the
rational numbers that they denote, whatever their scales (`Value.compare?_of_number?`). Nothing is rounded.

The operators are read off the order: of two comparable values one is before, equal to or after the other, and
of others nothing holds but that they are unequal (`CompareOp.holds_iff_of_not_comparable`).
-/

namespace EntityQuery

open Std

/-! ### Families -/

theorem Family.Comparable.trans {f g h : Family} (hfg : f.Comparable g) (hgh : g.Comparable h) :
    f.Comparable h := by
  rcases hfg with rfl | ⟨hf, hg⟩
  · exact hgh
  rcases hgh with rfl | ⟨-, hh⟩
  · exact .inr ⟨hf, hg⟩
  · exact .inr ⟨hf, hh⟩

/-! ### Numbers -/

/-- An integer denotes the same number when it is written as a decimal. -/
theorem Decimal.value_ofInt64 (i : Int64) : (ofInt64 i).value = i.toInt := by
  simp [value]

namespace Value

/-- The rational number that a value denotes, if it is a number. -/
def number? : Value → Option ℚ
  | int i => some i.toInt
  | decimal d => some d.value
  | _ => none

/-- Neither value is null or a list, and they are of one family or both numbers. -/
def Comparable (a b : Value) : Prop :=
  (a ≠ .null ∧ ∀ items, a ≠ .list items) ∧ (b ≠ .null ∧ ∀ items, b ≠ .list items) ∧
    (a.family? = b.family? ∨ (a.number?.isSome = true ∧ b.number?.isSome = true))

variable {a b c : Value}

/-- A number denotes what it denotes as a decimal. -/
theorem exists_decimal_of_number? {p : ℚ} (h : a.number? = some p) :
    ∃ d, a.withDecimals = .decimal d ∧ d.value = p := by
  cases a with
  | int i =>
    obtain rfl := Option.some.inj h
    exact ⟨.ofInt64 i, rfl, Decimal.value_ofInt64 i⟩
  | decimal d =>
    obtain rfl := Option.some.inj h
    exact ⟨d, rfl, rfl⟩
  | null | bool | string | dateTime | uuid | list => cases h

theorem isSome_number?_iff : a.number?.isSome = true ↔ ∃ f, a.family? = some f ∧ f.isNumber = true := by
  cases a <;> simp [number?, family?, Family.isNumber]

theorem family?_ne_none_iff : a.family? ≠ none ↔ a ≠ .null ∧ ∀ items, a ≠ .list items := by
  cases a <;> simp [family?]

/-- Values are comparable if their families are. -/
theorem comparable_iff_family : a.Comparable b ↔
    ∃ f g, a.family? = some f ∧ b.family? = some g ∧ f.Comparable g := by
  rw [Comparable, ← family?_ne_none_iff, ← family?_ne_none_iff, isSome_number?_iff, isSome_number?_iff]
  constructor
  · rintro ⟨ha, hb, h⟩
    obtain ⟨f, hf⟩ := Option.ne_none_iff_exists'.mp ha
    obtain ⟨g, hg⟩ := Option.ne_none_iff_exists'.mp hb
    refine ⟨f, g, hf, hg, h.imp (fun h => ?_) ?_⟩
    · rw [hf, hg] at h
      exact Option.some.inj h
    · rintro ⟨⟨f', hf', hnf⟩, ⟨g', hg', hng⟩⟩
      cases hf.symm.trans hf'
      cases hg.symm.trans hg'
      exact ⟨hnf, hng⟩
  · rintro ⟨f, g, hf, hg, h⟩
    rw [hf, hg]
    refine ⟨nofun, nofun, h.imp (congrArg some) ?_⟩
    rintro ⟨hnf, hng⟩
    exact ⟨⟨f, rfl, hnf⟩, ⟨g, rfl, hng⟩⟩

/-! ### Classes of comparable values -/

/-- Two values have an order exactly if they are comparable. -/
theorem isSome_compare?_iff_comparable : (a.compare? b).isSome = true ↔ a.Comparable b := by
  rw [compare?_isSome_iff, comparable_iff_family]

theorem compare?_eq_none_iff : a.compare? b = none ↔ ¬a.Comparable b := by
  rw [← isSome_compare?_iff_comparable, Option.not_isSome_iff_eq_none]

theorem Comparable.trans (hab : a.Comparable b) (hbc : b.Comparable c) : a.Comparable c := by
  rw [comparable_iff_family] at hab hbc ⊢
  obtain ⟨f, g, hf, hg, hfg⟩ := hab
  obtain ⟨g', h, hg', hh, hgh⟩ := hbc
  cases hg.symm.trans hg'
  exact ⟨f, h, hf, hh, hfg.trans hgh⟩

/-- Where there is an order, it is the total one of values in which integers are written as decimals. -/
theorem eq_compareTotal_of_compare? {o : Ordering} (h : a.compare? b = some o) :
    a.withDecimals.compareTotal b.withDecimals = o := by
  rw [← getD_compare?, h, Option.getD_some]

theorem compare?_eq_some_iff {o : Ordering} :
    a.compare? b = some o ↔ a.Comparable b ∧ a.withDecimals.compareTotal b.withDecimals = o := by
  constructor
  · intro h
    refine ⟨isSome_compare?_iff_comparable.mp ?_, eq_compareTotal_of_compare? h⟩
    rw [h]
    rfl
  · rintro ⟨hcomparable, rfl⟩
    obtain ⟨o, ho⟩ := Option.isSome_iff_exists.mp (isSome_compare?_iff_comparable.mpr hcomparable)
    rw [ho, eq_compareTotal_of_compare? ho]

/-- Along an ascending chain, the ends compare as the first step does, or as the second if the first is a
tie. The values of the chain may be integers and decimals in any order. -/
theorem compare?_trans {o o' : Ordering} (hab : a.compare? b = some o) (hbc : b.compare? c = some o')
    (ho : o.isLE = true) (ho' : o'.isLE = true) : a.compare? c = some (o.then o') := by
  obtain ⟨hcab, rfl⟩ := compare?_eq_some_iff.mp hab
  obtain ⟨hcbc, rfl⟩ := compare?_eq_some_iff.mp hbc
  exact compare?_eq_some_iff.mpr ⟨hcab.trans hcbc, compareTotal_eq_then ho ho'⟩

/-- Numbers are in the order of the rational numbers that they denote. -/
theorem compare?_of_number? {p q : ℚ} (ha : a.number? = some p) (hb : b.number? = some q) :
    a.compare? b = some (compare p q) := by
  obtain ⟨d, hd, rfl⟩ := exists_decimal_of_number? ha
  obtain ⟨e, he, rfl⟩ := exists_decimal_of_number? hb
  have hcomparable : a.Comparable b := by
    obtain ⟨f, hf, hnf⟩ := isSome_number?_iff.mp (Option.isSome_of_eq_some ha)
    obtain ⟨g, hg, hng⟩ := isSome_number?_iff.mp (Option.isSome_of_eq_some hb)
    exact comparable_iff_family.mpr ⟨f, g, hf, hg, .inr ⟨hnf, hng⟩⟩
  refine compare?_eq_some_iff.mpr ⟨hcomparable, ?_⟩
  rw [hd, he, ← Decimal.compare_eq_compare_value]
  rfl

end Value

/-! ### Operators -/

namespace CompareOp

variable {a b : Value}

/-- The order in which two values are if one of the three strict operators holds of them. -/
def ordering? : CompareOp → Option Ordering
  | lt => some .lt
  | eq => some .eq
  | gt => some .gt
  | ne | lte | gte => none

theorem holds_iff_compare? {op : CompareOp} {o : Ordering} (h : op.ordering? = some o) :
    op.holds a b = true ↔ a.compare? b = some o := by
  cases op with
  | lt | eq | gt =>
    obtain rfl := Option.some.inj h
    exact beq_iff_eq
  | ne | lte | gte => cases h

/-- Of two comparable values, one is before the other, equal to it or after it, and no two of these. -/
theorem existsUnique_of_comparable (h : a.Comparable b) :
    ∃! op, op ∈ [lt, eq, gt] ∧ op.holds a b = true := by
  obtain ⟨o, ho⟩ := Option.isSome_iff_exists.mp (Value.isSome_compare?_iff_comparable.mpr h)
  have hop : ∃ op ∈ [lt, eq, gt], op.ordering? = some o := by
    cases o with
    | lt => exact ⟨lt, by decide, rfl⟩
    | eq => exact ⟨eq, by decide, rfl⟩
    | gt => exact ⟨gt, by decide, rfl⟩
  obtain ⟨op, hmem, hord⟩ := hop
  refine ⟨op, ⟨hmem, (holds_iff_compare? hord).mpr ho⟩, ?_⟩
  rintro op' ⟨hmem', hholds'⟩
  have hsome : ∀ op ∈ [lt, eq, gt], ∃ o, op.ordering? = some o := by
    simp [ordering?]
  obtain ⟨o', ho'⟩ := hsome op' hmem'
  cases ho.symm.trans ((holds_iff_compare? ho').mp hholds')
  have hinj : ∀ op ∈ [lt, eq, gt], ∀ op' ∈ [lt, eq, gt], op'.ordering? = op.ordering? → op' = op := by
    decide
  exact hinj op hmem op' hmem' (ho'.trans hord.symm)

/-- Of values that are not comparable, nothing holds but that they are unequal. -/
theorem holds_iff_of_not_comparable (h : ¬a.Comparable b) (op : CompareOp) :
    op.holds a b = true ↔ op = .ne := by
  have hnone := Value.compare?_eq_none_iff.mpr h
  cases op <;> simp [holds, Value.looseEq, hnone]

end CompareOp

namespace Value

/-- Two values have an order exactly if they are comparable, and values that are comparable to one are comparable
to each other. The order turns round with the values, it is transitive, and for numbers of whichever kinds it is
that of the rational numbers they denote. So of comparable values exactly one is before, equal to or after the
other, and at most and at least are what their names say; of others no operator holds but inequality. -/
theorem compare?_exact (a b c : Value) :
    ((a.compare? b).isSome = true ↔ a.Comparable b) ∧
      b.compare? a = (a.compare? b).map Ordering.swap ∧
      (a.Comparable b → b.Comparable c → a.Comparable c) ∧
      (∀ o o', a.compare? b = some o → b.compare? c = some o' → o.isLE = true → o'.isLE = true →
        a.compare? c = some (o.then o')) ∧
      (∀ p q, a.number? = some p → b.number? = some q → a.compare? b = some (compare p q)) ∧
      (a.Comparable b → ∃! op, op ∈ [CompareOp.lt, .eq, .gt] ∧ op.holds a b = true) ∧
      CompareOp.lte.holds a b = (CompareOp.lt.holds a b || CompareOp.eq.holds a b) ∧
      CompareOp.gte.holds a b = (CompareOp.gt.holds a b || CompareOp.eq.holds a b) ∧
      CompareOp.ne.holds a b = !CompareOp.eq.holds a b ∧
      (¬a.Comparable b → ∀ op : CompareOp, op.holds a b = true ↔ op = .ne) :=
  ⟨isSome_compare?_iff_comparable, (compare?_swap a b).symm, Comparable.trans, fun _ _ => compare?_trans,
    fun _ _ => compare?_of_number?, CompareOp.existsUnique_of_comparable, rfl, rfl, rfl,
    CompareOp.holds_iff_of_not_comparable⟩

/-- The least integer, the same number with a digit after the point, and the greatest decimal. The integer equals
the first, which is before the second, so it is before the second too. Null is only unequal to it. -/
theorem compare?_exact_limits :
    let a := Value.int Int64.minValue
    let b := Value.decimal ⟨true, 2 ^ 63 * 10, 1, by decide, by decide⟩
    let c := Value.decimal ⟨false, 2 ^ 96 - 1, 0, by decide, by decide⟩
    a.compare? b = some .eq ∧ b.compare? c = some .lt ∧ a.compare? c = some .lt ∧
      (∃! op, op ∈ [CompareOp.lt, .eq, .gt] ∧ op.holds a b = true) ∧
      ∀ op : CompareOp, op.holds .null a = true ↔ op = .ne := by
  intro a b c
  have hab : a.compare? b = some .eq := by decide +kernel
  have hbc : b.compare? c = some .lt := by decide +kernel
  obtain ⟨hdefined, -, -, htrans, -, hunique, -⟩ := compare?_exact a b c
  have hcomparable : a.Comparable b := hdefined.mp (Option.isSome_of_eq_some hab)
  have hnull : ¬Value.null.Comparable a := fun h => h.1.1 rfl
  exact ⟨hab, hbc, htrans _ _ hab hbc rfl rfl, hunique hcomparable,
    (compare?_exact .null a c).2.2.2.2.2.2.2.2.2 hnull⟩

end Value

end EntityQuery

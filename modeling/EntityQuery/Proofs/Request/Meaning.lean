import EntityQuery.Proofs.Expr.Compilation
import EntityQuery.Proofs.People
import EntityQuery.Proofs.Predicate.Evaluation
import EntityQuery.Proofs.Value.Comparison
import EntityQuery.Request.Selection
import Mathlib.Data.List.Basic

/-!
# What filters mean

An operator of a request means a relation between the value of a property and the values of the literals
(`FilterOperator.Means`), which is said here without expressions. The condition that a filter is translated
to holds exactly where the relation does, whatever the value: null, a list or a value of another family
than the property declares (`FilterOperator.condition_holdsAt_iff`).

A filter that passes the checks names a property that there is, its operator makes sense of the property,
and the literals are as many as the operator takes and are read in the property's family
(`FilterSpec.check_eq_ok_iff`). So the specification of a filter compiles and is satisfied by the rows of
whose property the operator holds (`FilterSpec.toSpecification_means`).
-/

namespace EntityQuery

/-! ### Methods -/

theorem Method.textTest_iff {mode : CaseMode} {test : List Char → List Char → Bool} {v l : Value} :
    textTest mode test v l = true ↔
      ∃ s t, v = .string s ∧ l = .string t ∧ test (mode.fold s.toList) (mode.fold t.toList) = true := by
  cases v <;> cases l <;> simp [textTest, Value.string?]

theorem Value.overlaps_iff {v w : Value} :
    v.overlaps w = true ↔ ∃ x ∈ v.members, ∃ y ∈ w.members, x.compare? y = some .eq := by
  simp [overlaps, looseEq_iff]

theorem Value.setEquals_iff {v w : Value} :
    v.setEquals w = true ↔ (∀ y ∈ w.members, ∃ x ∈ v.members, x.compare? y = some .eq) ∧
      ∀ x ∈ v.members, ∃ y ∈ w.members, x.compare? y = some .eq := by
  simp only [setEquals, covers, Bool.and_eq_true, List.all_eq_true, List.any_eq_true, looseEq_iff]
  refine and_congr_right fun _ => forall₂_congr fun x _ => exists_congr fun y => and_congr_right fun _ => ?_
  exact compare?_eq_some_swap_iff (o := .eq)

/-! ### Operators as relations -/

namespace FilterOperator

/-- The value equals the literal. The case of texts is ignored if the mode says so. -/
def Equal (mode : CaseMode) (f : Family) (l v : Value) : Prop :=
  if mode = .ignoreCase ∧ f = .string then
    ∃ s t, v = .string s ∧ l = .string t ∧ Text.lowerChars s.toList = Text.lowerChars t.toList
  else v.compare? l = some .eq

/-- The value is a text, and the literal is a part of it in the sense of `R`. The case of both is ignored
if the mode says so. -/
def HasPart (mode : CaseMode) (R : List Char → List Char → Prop) (l v : Value) : Prop :=
  ∃ s t, v = .string s ∧ l = .string t ∧ R (mode.fold t.toList) (mode.fold s.toList)

/-- Some member of the value equals some literal. -/
def Meets (ls : List Value) (v : Value) : Prop :=
  ∃ x ∈ v.members, ∃ l ∈ ls, x.compare? l = some .eq

/-- What an operator means of a value of a property whose family is `f`, given the literals. -/
def Means (op : FilterOperator) (mode : CaseMode) (f : Family) (ls : List Value) (v : Value) : Prop :=
  match op with
  | equals => ∃ l, ls = [l] ∧ Equal mode f l v
  | notEqual => ∃ l, ls = [l] ∧ ¬Equal mode f l v
  | contains => ∃ l, ls = [l] ∧ HasPart mode (fun part s => part <:+: s) l v
  | startsWith => ∃ l, ls = [l] ∧ HasPart mode (fun part s => part <+: s) l v
  | endsWith => ∃ l, ls = [l] ∧ HasPart mode (fun part s => part <:+ s) l v
  | notEmpty => v ≠ .null ∧ v ≠ .list [] ∧
      ∀ g, v.family? = some g → v.compare? g.defaultValue ≠ some .eq
  | lessThan => ∃ l, ls = [l] ∧ v.compare? l = some .lt
  | greaterThan => ∃ l, ls = [l] ∧ v.compare? l = some .gt
  | between => ∃ low high, ls = [low, high] ∧ low.NotAfter v ∧ v.NotAfter high
  | includeAny => Meets ls v
  | includeEquals => (∀ l ∈ ls, ∃ x ∈ v.members, x.compare? l = some .eq) ∧
      ∀ x ∈ v.members, ∃ l ∈ ls, x.compare? l = some .eq
  | includeNone => ¬Meets ls v

/-- An operator is asked of a property of this type with these values. -/
structure Accepts (op : FilterOperator) (t : PropertyType) (ls : List Value) : Prop where
  applies : op.appliesTo t = true
  length_eq : ∀ n, op.arity = .exactly n → ls.length = n
  texts : t.family = .string → ∀ l ∈ ls, ∃ s, l = .string s

end FilterOperator

variable {S : Schema}

theorem Family.isTextual_iff {f : Family} : f.isTextual = true ↔ f = .string := by
  cases f <;> simp [isTextual]

/-! ### Conditions -/

namespace Operand

variable {o : Operand S} {x : S.AnyRow} {l : Value}

theorem eq_holdsAt_iff :
    (o.eq l).holdsAt x = true ↔ FilterOperator.Equal o.mode o.type.family l (o.expr.valueAt x) := by
  by_cases h : o.mode = .ignoreCase ∧ o.type.family = .string
  · rw [eq, if_pos ⟨h.1, Family.isTextual_iff.mpr h.2⟩, FilterOperator.Equal, if_pos h, call,
      Expr.holdsAt_call_cons, Expr.valueAt_constant, Method.holds, Method.textTest_iff]
    simp only [CaseMode.fold, beq_iff_eq]
  · have h' : ¬(o.mode = .ignoreCase ∧ o.type.family.isTextual = true) := by
      rwa [Family.isTextual_iff]
    rw [eq, if_neg h', FilterOperator.Equal, if_neg h, compare, Expr.holdsAt_compare,
      Expr.valueAt_constant, CompareOp.holds, Value.looseEq_iff]

theorem ne_holdsAt_iff :
    (o.ne l).holdsAt x = true ↔ ¬FilterOperator.Equal o.mode o.type.family l (o.expr.valueAt x) := by
  rw [ne, Expr.holdsAt_negate, Bool.not_eq_true', ← Bool.not_eq_true, eq_holdsAt_iff]

theorem contains_holdsAt_iff {s : String} :
    (o.contains s).holdsAt x = true ↔
      FilterOperator.HasPart o.mode (fun part s => part <:+: s) (.string s) (o.expr.valueAt x) := by
  rw [contains, call, Expr.holdsAt_call_cons, Expr.valueAt_constant, Method.holds, Method.textTest_iff]
  simp only [Text.hasInfix_iff, FilterOperator.HasPart]

theorem startsWith_holdsAt_iff {s : String} :
    (o.startsWith s).holdsAt x = true ↔
      FilterOperator.HasPart o.mode (fun part s => part <+: s) (.string s) (o.expr.valueAt x) := by
  rw [startsWith, call, Expr.holdsAt_call_cons, Expr.valueAt_constant, Method.holds,
    Method.textTest_iff]
  simp only [List.isPrefixOf_iff_prefix, FilterOperator.HasPart]

theorem endsWith_holdsAt_iff {s : String} :
    (o.endsWith s).holdsAt x = true ↔
      FilterOperator.HasPart o.mode (fun part s => part <:+ s) (.string s) (o.expr.valueAt x) := by
  rw [endsWith, call, Expr.holdsAt_call_cons, Expr.valueAt_constant, Method.holds, Method.textTest_iff]
  simp only [List.isSuffixOf_iff_suffix, FilterOperator.HasPart]

theorem notEmpty_holdsAt_iff :
    o.notEmpty.holdsAt x = true ↔
      o.expr.valueAt x ≠ .null ∧ o.expr.valueAt x ≠ .list [] ∧
        ∀ f, (o.expr.valueAt x).family? = some f →
          (o.expr.valueAt x).compare? f.defaultValue ≠ some .eq := by
  rw [notEmpty, Expr.holdsAt_negate, isDefault, call, Expr.holdsAt_call_nil, Method.holds,
    Bool.not_eq_true', ← Bool.not_eq_true, Value.isDefault_iff]
  simp only [Value.looseEq_iff, not_or, not_exists, not_and]

theorem between_holdsAt_iff {low high : Value} :
    (o.between low high).holdsAt x = true ↔
      low.NotAfter (o.expr.valueAt x) ∧ (o.expr.valueAt x).NotAfter high := by
  rw [between, Expr.holdsAt_and, Bool.and_eq_true, compare, compare, Expr.holdsAt_compare,
    Expr.holdsAt_compare, Expr.valueAt_constant, Expr.valueAt_constant]
  exact and_congr Value.gte_holds_iff Value.lte_holds_iff

theorem overlaps_holdsAt_iff {ls : List Value} :
    (o.overlaps ls).holdsAt x = true ↔ FilterOperator.Meets ls (o.expr.valueAt x) := by
  rw [overlaps, call, Expr.holdsAt_call_cons, Expr.valueAt_constant, Method.holds, Value.overlaps_iff]
  rfl

theorem setEquals_holdsAt_iff {ls : List Value} :
    (o.setEquals ls).holdsAt x = true ↔
      (∀ l ∈ ls, ∃ v ∈ (o.expr.valueAt x).members, v.compare? l = some .eq) ∧
        ∀ v ∈ (o.expr.valueAt x).members, ∃ l ∈ ls, v.compare? l = some .eq := by
  rw [setEquals, call, Expr.holdsAt_call_cons, Expr.valueAt_constant, Method.holds,
    Value.setEquals_iff, Value.members_list]

theorem compare_lt_holdsAt_iff :
    (o.compare .lt l).holdsAt x = true ↔ (o.expr.valueAt x).compare? l = some .lt := by
  rw [compare, Expr.holdsAt_compare, Expr.valueAt_constant, CompareOp.holds, beq_iff_eq]

theorem compare_gt_holdsAt_iff :
    (o.compare .gt l).holdsAt x = true ↔ (o.expr.valueAt x).compare? l = some .gt := by
  rw [compare, Expr.holdsAt_compare, Expr.valueAt_constant, CompareOp.holds, beq_iff_eq]

end Operand

namespace FilterOperator

namespace Accepts

variable {op : FilterOperator} {t : PropertyType} {ls : List Value}

theorem single (h : op.Accepts t ls) (hn : op.arity = .exactly 1) : ∃ l, ls = [l] :=
  List.length_eq_one_iff.mp (h.length_eq 1 hn)

theorem pair (h : op.Accepts t ls) (hn : op.arity = .exactly 2) : ∃ low high, ls = [low, high] :=
  List.length_eq_two.mp (h.length_eq 2 hn)

/-- The literal of a test of texts is a text. -/
theorem text (h : op.Accepts t ls) (hn : op.arity = .exactly 1)
    (ht : op.appliesTo t = true → t.family.isTextual = true) : ∃ s, ls = [.string s] := by
  obtain ⟨l, rfl⟩ := h.single hn
  obtain ⟨s, rfl⟩ := h.texts (Family.isTextual_iff.mp (ht h.applies)) l (List.mem_singleton.mpr rfl)
  exact ⟨s, rfl⟩

end Accepts

theorem exists_single_iff {l : Value} {P : Value → Prop} : (∃ l', [l] = [l'] ∧ P l') ↔ P l := by
  simp

theorem exists_pair_iff {low high : Value} {P : Value → Value → Prop} :
    (∃ low' high', [low, high] = [low', high'] ∧ P low' high') ↔ P low high := by
  constructor
  · rintro ⟨low', high', heq, h⟩
    cases heq
    exact h
  · intro h
    exact ⟨low, high, rfl, h⟩

/-- The condition of an operator holds exactly where the operator does, whatever the value. -/
theorem condition_holdsAt_iff {op : FilterOperator} {o : Operand S} {ls : List Value}
    (h : op.Accepts o.type ls) {x : S.AnyRow} :
    (op.condition o ls).holdsAt x = true ↔ op.Means o.mode o.type.family ls (o.expr.valueAt x) := by
  have hpart : ∀ {b : Bool}, (if o.type.isCollection then false else b) = true → b = true := by
    intro b hb
    split at hb
    · cases hb
    · exact hb
  cases op with
  | equals =>
    obtain ⟨l, rfl⟩ := h.single rfl
    rw [Means, exists_single_iff]
    exact Operand.eq_holdsAt_iff
  | notEqual =>
    obtain ⟨l, rfl⟩ := h.single rfl
    rw [Means, exists_single_iff]
    exact Operand.ne_holdsAt_iff
  | contains =>
    obtain ⟨s, rfl⟩ := h.text rfl hpart
    rw [Means, exists_single_iff]
    exact Operand.contains_holdsAt_iff
  | startsWith =>
    obtain ⟨s, rfl⟩ := h.text rfl hpart
    rw [Means, exists_single_iff]
    exact Operand.startsWith_holdsAt_iff
  | endsWith =>
    obtain ⟨s, rfl⟩ := h.text rfl hpart
    rw [Means, exists_single_iff]
    exact Operand.endsWith_holdsAt_iff
  | notEmpty => exact Operand.notEmpty_holdsAt_iff
  | lessThan =>
    obtain ⟨l, rfl⟩ := h.single rfl
    rw [Means, exists_single_iff]
    exact Operand.compare_lt_holdsAt_iff
  | greaterThan =>
    obtain ⟨l, rfl⟩ := h.single rfl
    rw [Means, exists_single_iff]
    exact Operand.compare_gt_holdsAt_iff
  | between =>
    obtain ⟨low, high, rfl⟩ := h.pair rfl
    rw [Means, exists_pair_iff]
    exact Operand.between_holdsAt_iff
  | includeAny => exact Operand.overlaps_holdsAt_iff
  | includeEquals => exact Operand.setEquals_holdsAt_iff
  | includeNone =>
    rw [Means, condition, Expr.holdsAt_negate, Bool.not_eq_true', ← Bool.not_eq_true,
      Operand.overlaps_holdsAt_iff]

/-- The condition of an operator is a condition, if the operand is a value. -/
theorem condition_fits {op : FilterOperator} {o : Operand S} {ls : List Value} {bound : Parameter S}
    (h : o.expr.Fits bound .value) : (op.condition o ls).Fits bound .condition := by
  have hcompare : ∀ c l, (o.compare c l).Fits bound .condition := fun c l => .compare h (.constant l)
  have hcall : ∀ (m : Method) l, m.arity = 1 → (o.call m [.constant l]).Fits bound .condition := by
    intro m l hm
    refine .call hm.symm h fun e he => ?_
    rw [List.mem_singleton.mp he]
    exact .constant l
  have heq : ∀ l, (o.eq l).Fits bound .condition := by
    intro l
    unfold Operand.eq
    split
    · exact hcall _ _ rfl
    · exact hcompare _ _
  cases op with
  | equals => exact heq _
  | notEqual => exact (heq _).negate
  | contains | startsWith | endsWith | includeAny | includeEquals => exact hcall _ _ rfl
  | notEmpty => exact Expr.Fits.negate (.call rfl h (by simp))
  | lessThan | greaterThan => exact hcompare _ _
  | between => exact .and (hcompare _ _) (hcompare _ _)
  | includeNone => exact (hcall _ _ rfl).negate

end FilterOperator

/-! ### Checks -/

namespace FilterSpec

variable {t : S.Entity} {spec : FilterSpec}

/-- Literals are read one by one. -/
theorem readLiterals_eq_ok_iff {f : Family} {name : String} {raws : List String} {vs : List Value} :
    readLiterals f name raws = .ok vs ↔ raws.map f.read? = vs.map some := by
  induction raws generalizing vs with
  | nil => cases vs <;> simp [readLiterals]
  | cons raw rest ih =>
    simp only [readLiterals, bind_eq_ok_iff, mapError_eq_ok_iff, Family.parse_eq_ok_iff, ih,
      Except.ok.injEq, List.map_cons]
    constructor
    · rintro ⟨v, hv, vs', hvs, rfl⟩
      rw [List.map_cons, hv, hvs]
    · intro h
      cases vs with
      | nil => cases h
      | cons v vs' =>
        rw [List.map_cons, List.cons.injEq] at h
        exact ⟨v, h.1, vs', h.2, rfl⟩

/-- Every value is what some literal denotes. -/
theorem exists_read_of_mem {f : Family} {raws : List String} {vs : List Value}
    (h : raws.map f.read? = vs.map some) {v : Value} (hv : v ∈ vs) : ∃ raw ∈ raws, f.read? raw = some v := by
  have hmem : some v ∈ raws.map f.read? := by
    rw [h]
    exact List.mem_map_of_mem hv
  exact List.mem_map.mp hmem

/-- A literal of a property of texts is a text. -/
theorem exists_string_of_read {f : Family} {raws : List String} {vs : List Value}
    (h : raws.map f.read? = vs.map some) (hf : f = .string) : ∀ v ∈ vs, ∃ s, v = .string s := by
  intro v hv
  obtain ⟨raw, -, hraw⟩ := exists_read_of_mem h hv
  rw [hf, Family.read?_string] at hraw
  exact ⟨raw, (Option.some.inj hraw).symm⟩

theorem checkArity_eq_ok {op : FilterOperator} {name : String} {count n : Nat}
    (h : op.checkArity name count = .ok ()) (hn : op.arity = .exactly n) : count = n := by
  simp only [FilterOperator.checkArity, hn] at h
  by_contra hne
  rw [if_neg hne] at h
  cases h

/-- The operator looks at all literals, unless it looks at none. -/
theorem operands_eq_ok {f : Family} {name : String} {vs : List Value}
    (h : spec.operands f name = .ok vs) :
    (spec.operator = .notEmpty ∧ vs = []) ∨
      (spec.operator ≠ .notEmpty ∧ spec.literals.map f.read? = vs.map some) := by
  unfold operands at h
  cases hop : spec.operator with
  | notEmpty =>
    rw [hop] at h
    exact .inl ⟨rfl, (Except.ok.inj h).symm⟩
  | equals | notEqual | contains | startsWith | endsWith | lessThan | greaterThan | between
  | includeAny | includeEquals | includeNone =>
    rw [hop] at h
    exact .inr ⟨nofun, readLiterals_eq_ok_iff.mp h⟩

/-- A filter that passes the checks is about a property that there is, with literals that are read in the
family of the property and that its operator takes. -/
theorem check_eq_ok {p : Property (S.Row t)} {ls : List Value} (h : spec.check t = .ok (p, ls)) :
    (S.metadata t).find? spec.propertyName = some p ∧ spec.operator.Accepts p.type ls ∧
      (spec.operator ≠ .notEmpty → spec.literals.map p.type.family.read? = ls.map some) := by
  simp only [check, bind_eq_ok_iff, Metadata.resolve_eq_ok_iff, Except.ok.injEq, Prod.mk.injEq] at h
  obtain ⟨q, hfind, _, -, _, happlies, _, harity, vs, hvs, rfl, rfl⟩ := h
  have happlies : spec.operator.appliesTo q.type = true := by
    by_contra hne
    rw [FilterOperator.checkProperty, if_neg hne] at happlies
    cases happlies
  rcases operands_eq_ok hvs with ⟨hop, rfl⟩ | ⟨hop, hread⟩
  · refine ⟨hfind, ⟨happlies, fun n hn => ?_, fun _ l hl => absurd hl List.not_mem_nil⟩, absurd hop⟩
    rw [hop] at hn
    cases hn
  · refine ⟨hfind, ⟨happlies, fun n hn => ?_, exists_string_of_read hread⟩, fun _ => hread⟩
    have hlength := congrArg List.length hread
    rw [List.length_map, List.length_map] at hlength
    rw [← hlength]
    exact checkArity_eq_ok harity hn

/-! ### Translation -/

/-- The operand that a filter is about, in a tree with the given parameter. -/
def operand (p : Property (S.Row t)) (mode : CaseMode) (q : Parameter S) : Operand S :=
  ⟨.member (.parameter q) (Member.ofProperty t p), p.type, mode⟩

/-- A filter is translated to the condition of its operator. -/
theorem toSpecification_eq_ok {mode : CaseMode} {s : Supply} {a : Specification S t}
    (h : (spec.toSpecification mode t s).1 = .ok a) :
    ∃ p ls, spec.check t = .ok (p, ls) ∧
      a.tree.body = spec.operator.condition (operand p mode a.tree.parameter) ls := by
  cases hc : spec.check t with
  | error e =>
    simp only [toSpecification, hc] at h
    cases h
  | ok out =>
    obtain ⟨p, ls⟩ := out
    refine ⟨p, ls, rfl, ?_⟩
    obtain ⟨hfind, -, -⟩ := check_eq_ok hc
    have hresolve : (S.metadata t).resolve p.name = .ok p := by
      rw [Metadata.resolve_eq_ok_iff, Metadata.name_of_find? hfind, hfind]
    simp only [toSpecification, hc, Specification.build, Tree.build, Position.property, hresolve,
      bind, Except.bind] at h
    obtain rfl := Except.ok.inj h
    rfl

/-- The specification of a filter that translates compiles, and it is satisfied by the rows of whose
property the operator holds, the literals being read in the family of the property. -/
theorem toSpecification_means {mode : CaseMode} {s : Supply} {a : Specification S t}
    (h : (spec.toSpecification mode t s).1 = .ok a) :
    ∃ p ls f, (S.metadata t).find? spec.propertyName = some p ∧
      (spec.operator ≠ .notEmpty → spec.literals.map p.type.family.read? = ls.map some) ∧
      a.Means f ∧ ∀ r, f r = true ↔ spec.operator.Means mode p.type.family ls (p.read r) := by
  obtain ⟨p, ls, hcheck, hbody⟩ := toSpecification_eq_ok h
  obtain ⟨hfind, haccepts, hread⟩ := check_eq_ok hcheck
  have hoperand : (operand p mode a.tree.parameter).expr.Fits a.tree.parameter .value :=
    .member (Expr.Fits.parameter_row_iff.mpr ⟨rfl, a.tree.entity_eq.symm⟩)
  have hfits : a.tree.body.Fits a.tree.parameter .condition := by
    rw [hbody]
    exact FilterOperator.condition_fits hoperand
  refine ⟨p, ls, _, hfind, hread, Specification.means_holdsAt hfits, fun r => ?_⟩
  have hvalue : (operand p mode a.tree.parameter).expr.valueAt ⟨t, r⟩ = p.read r := by
    simp [operand, Expr.read, Member.readAny, Member.ofProperty]
  rw [hbody, FilterOperator.condition_holdsAt_iff haccepts, hvalue]
  rfl

/-- Not to be thirty. People whose age is not known count as well. -/
theorem toSpecification_means_age :
    ∃ a, ((FilterSpec.mk "Age" .integer .notEqual (some "30") []).toSpecification .ordinal
        People.person {}).1 = .ok a ∧
      a.isSatisfiedBy People.ada = .ok true ∧ a.isSatisfiedBy People.bob = .ok false := by
  obtain ⟨a, ha⟩ : ∃ a, ((FilterSpec.mk "Age" .integer .notEqual (some "30") []).toSpecification
      .ordinal People.person {}).1 = .ok a := ⟨_, rfl⟩
  obtain ⟨p, ls, f, hp, hls, hmeans, hf⟩ := toSpecification_means ha
  obtain rfl : People.ageProperty = p := Option.some.inj hp
  have hls : ls = [.int 30] := by
    have hread := hls nofun
    change [some (Value.int 30)] = _ at hread
    cases ls with
    | nil => cases hread
    | cons l rest =>
      cases rest with
      | nil =>
        cases hread
        rfl
      | cons => cases hread
  subst hls
  refine ⟨a, ha, ?_, ?_⟩
  · have hada : f People.ada = true := (hf _).mpr ⟨.int 30, rfl, nofun⟩
    rw [hmeans.direct, hada]
  · have hbob : f People.bob = false := by
      rw [← Bool.not_eq_true, hf]
      rintro ⟨l, hl, hne⟩
      cases hl
      exact hne rfl
    rw [hmeans.direct, hbob]

end FilterSpec

end EntityQuery

import EntityQuery.Proofs.People
import EntityQuery.Proofs.Request.Execution

/-!
# Faults of filters

A filter may be at fault in several ways at once: its property, its declared type, its operator, the number of
its literals and each of the literals. What these faults are is said here one by one, each with the error that
stands for it (`FilterSpec.Fault`). A filter is translated exactly if it has none of them, and otherwise the
fault that comes first in the list of codes is reported, whatever else is wrong
(`FilterSpec.toSpecification_reports_first`).
-/

namespace EntityQuery

theorem QueryError.property_propertyNotFound (entity property : String) (known : List String) :
    (QueryError.propertyNotFound entity property known).context.property = some property :=
  kept_propertyNotFound (fun e => e.context.property) (fun _ _ => rfl) (fun _ _ => rfl) entity property known

/-! ### Operators -/

/-- The operator makes no sense of a property of this type. -/
inductive FilterOperator.Misapplied (op : FilterOperator) (t : PropertyType) : Prop where
  /-- A collection is empty or not, and includes members or not. -/
  | collection (ht : t.shape = .collection)
      (hop : op ∉ [notEmpty, includeAny, includeEquals, includeNone]) : Misapplied op t
  /-- Only texts have parts. -/
  | text (ht : t.shape ≠ .collection) (hop : op ∈ [contains, startsWith, endsWith])
      (hf : t.family ≠ .string) : Misapplied op t
  /-- Only numbers and times come before and after one another. -/
  | range (ht : t.shape ≠ .collection) (hop : op ∈ [lessThan, greaterThan, between])
      (hf : t.family ∉ [.integer, .decimal, .dateTime]) : Misapplied op t

theorem PropertyType.isCollection_iff {t : PropertyType} : t.isCollection = true ↔ t.shape = .collection :=
  beq_iff_eq

theorem Family.isOrdered_iff {f : Family} : f.isOrdered = true ↔ f ∈ [.integer, .decimal, .dateTime] := by
  cases f <;> decide

namespace FilterOperator

theorem isSetOperator_or_iff {op : FilterOperator} :
    (op.isSetOperator || op == notEmpty) = true ↔ op ∈ [notEmpty, includeAny, includeEquals, includeNone] := by
  cases op <;> decide

theorem appliesTo_iff {op : FilterOperator} {t : PropertyType} : op.appliesTo t = true ↔ ¬op.Misapplied t := by
  by_cases ht : t.shape = .collection
  · have hiff : op.Misapplied t ↔ op ∉ [notEmpty, includeAny, includeEquals, includeNone] := by
      constructor
      · rintro (⟨-, hop⟩ | ⟨hne, -, -⟩ | ⟨hne, -, -⟩)
        · exact hop
        · exact absurd ht hne
        · exact absurd ht hne
      · exact .collection ht
    unfold appliesTo
    rw [if_pos (PropertyType.isCollection_iff.mpr ht), isSetOperator_or_iff, hiff, not_not]
  · have hiff : op.Misapplied t ↔ (op ∈ [contains, startsWith, endsWith] ∧ t.family ≠ .string) ∨
        (op ∈ [lessThan, greaterThan, between] ∧ t.family ∉ [.integer, .decimal, .dateTime]) := by
      constructor
      · rintro (⟨h, -⟩ | ⟨-, hop, hf⟩ | ⟨-, hop, hf⟩)
        · exact absurd h ht
        · exact .inl ⟨hop, hf⟩
        · exact .inr ⟨hop, hf⟩
      · rintro (⟨hop, hf⟩ | ⟨hop, hf⟩)
        · exact .text ht hop hf
        · exact .range ht hop hf
    unfold appliesTo
    rw [if_neg (mt PropertyType.isCollection_iff.mp ht), hiff]
    cases op with
    | contains | startsWith | endsWith => simp [Family.isTextual_iff]
    | lessThan | greaterThan | between => simp [Family.isOrdered_iff, or_iff_not_imp_left]
    | equals | notEqual | notEmpty | includeAny | includeEquals | includeNone => simp

end FilterOperator

variable {S : Schema} {t : S.Entity}

namespace FilterSpec

/-! ### Faults -/

/-- The faults that a filter can have, each with its code and the error that stands for it. A filter can have
several of them. -/
inductive Fault (t : S.Entity) (spec : FilterSpec) : ErrorCode → QueryError → Prop where
  /-- There is no property of that name. -/
  | property (h : (S.metadata t).find? spec.propertyName = none) :
      Fault t spec .propertyNotFound
        (.propertyNotFound (S.nameOf t) spec.propertyName (S.metadata t).names)
  /-- The property is of another family than the filter declares. -/
  | type {p : Property (S.Row t)} (hp : (S.metadata t).find? spec.propertyName = some p)
      (h : spec.declaredType ≠ p.type.family) :
      Fault t spec .typeMismatch
        (.typeMismatch spec.propertyName spec.declaredType.name p.type.family.name)
  /-- The operator makes no sense of the property. -/
  | operator {p : Property (S.Row t)} (hp : (S.metadata t).find? spec.propertyName = some p)
      (h : spec.operator.Misapplied p.type) :
      Fault t spec .unsupportedOperation (.unsupportedOperation spec.propertyName
        s!"{spec.operator.name} is not supported on property '{spec.propertyName}' of type {p.type.toText}")
  /-- The operator takes another number of literals. -/
  | count {n : Nat} (hn : spec.operator.arity = .exactly n) (h : spec.literals.length ≠ n) :
      Fault t spec .invalidArity
        ((QueryError.invalidArity spec.operator.name (toString n) spec.literals.length).withProperty
          spec.propertyName)
  /-- The operator looks at the literals, and this is the first that is none of the property's family. -/
  | literal {p : Property (S.Row t)} {raw : String} (hp : (S.metadata t).find? spec.propertyName = some p)
      (hop : spec.operator ≠ .notEmpty)
      (h : spec.literals.find? (fun l => (p.type.family.read? l).isNone) = some raw) :
      Fault t spec .valueParseError ((p.type.family.literalError raw).withProperty spec.propertyName)

/-- The filter has no fault with a code that comes before this one in the list of codes. -/
def IsFirst (t : S.Entity) (spec : FilterSpec) (code : ErrorCode) : Prop :=
  ∀ code' ∈ requestCodes.takeWhile (· ≠ code), ∀ e, ¬spec.Fault t code' e

variable {spec : FilterSpec} {code code' : ErrorCode} {e e' : QueryError}

/-- Of each kind of fault there is one at most. -/
theorem Fault.unique (h : spec.Fault t code e) (h' : spec.Fault t code e') : e = e' := by
  cases h with
  | property => cases h' with | property => rfl
  | type hp =>
    cases h' with
    | type hp' =>
      cases hp.symm.trans hp'
      rfl
  | operator hp =>
    cases h' with
    | operator hp' =>
      cases hp.symm.trans hp'
      rfl
  | count hn =>
    cases h' with
    | count hn' =>
      cases hn.symm.trans hn'
      rfl
  | literal hp _ hraw =>
    cases h' with
    | literal hp' _ hraw' =>
      cases hp.symm.trans hp'
      cases hraw.symm.trans hraw'
      rfl

theorem Fault.code_mem (h : spec.Fault t code e) : code ∈ requestCodes := by
  cases h <;> decide

theorem Fault.code_eq (h : spec.Fault t code e) : e.code = code := by
  cases h with
  | property => exact QueryError.code_propertyNotFound _ _ _
  | type | operator | count => rfl
  | @literal p => cases p.type.family <;> rfl

/-! ### Checks -/

theorem checkType_of_eq {declared : Family} {name : String} {p : PropertyType} (h : declared = p.family) :
    checkType declared name p = .ok () :=
  if_pos h

theorem checkProperty_of_not_misapplied {op : FilterOperator} {name : String} {p : PropertyType}
    (h : ¬op.Misapplied p) : op.checkProperty name p = .ok () :=
  if_pos (FilterOperator.appliesTo_iff.mpr h)

/-- The number of literals is wrong, or it passes. -/
theorem checkArity_cases (op : FilterOperator) (name : String) (count : Nat) :
    (∃ n, op.arity = .exactly n ∧ count ≠ n ∧ op.checkArity name count =
        .error ((QueryError.invalidArity op.name (toString n) count).withProperty name)) ∨
      (op.checkArity name count = .ok () ∧ ∀ n, op.arity = .exactly n → count = n) := by
  unfold FilterOperator.checkArity
  split
  · rename_i n hn
    by_cases hcount : count = n
    · rw [if_pos hcount]
      refine .inr ⟨rfl, fun m hm => ?_⟩
      cases hn.symm.trans hm
      exact hcount
    · rw [if_neg hcount]
      exact .inl ⟨n, hn, hcount, rfl⟩
  · rename_i hno
    exact .inr ⟨rfl, fun n hn => absurd hn (hno n)⟩

/-- The first literal that is none of the family's is reported, or all are read. -/
theorem readLiterals_cases (f : Family) (name : String) (raws : List String) :
    (∃ raw, raws.find? (fun l => (f.read? l).isNone) = some raw ∧
        readLiterals f name raws = .error ((f.literalError raw).withProperty name)) ∨
      (raws.find? (fun l => (f.read? l).isNone) = none ∧ ∃ vs, readLiterals f name raws = .ok vs) := by
  induction raws with
  | nil => exact .inr ⟨rfl, [], rfl⟩
  | cons raw rest ih =>
    rw [readLiterals, Family.parse]
    cases hraw : f.read? raw with
    | none =>
      refine .inl ⟨raw, ?_, rfl⟩
      rw [List.find?_cons_of_pos (by rw [hraw]; rfl)]
    | some v =>
      rw [List.find?_cons_of_neg (by rw [hraw]; exact Bool.false_ne_true)]
      rcases ih with ⟨bad, hbad, he⟩ | ⟨hnone, vs, hvs⟩
      · rw [he]
        exact .inl ⟨bad, hbad, rfl⟩
      · rw [hvs]
        exact .inr ⟨hnone, v :: vs, rfl⟩

/-- The operator looks at the literals and reports the first that is none of the family's, or all that it looks
at are read. -/
theorem operands_cases (spec : FilterSpec) (f : Family) (name : String) :
    (∃ raw, spec.operator ≠ .notEmpty ∧ spec.literals.find? (fun l => (f.read? l).isNone) = some raw ∧
        spec.operands f name = .error ((f.literalError raw).withProperty name)) ∨
      ((spec.operator ≠ .notEmpty → spec.literals.find? (fun l => (f.read? l).isNone) = none) ∧
        ∃ vs, spec.operands f name = .ok vs) := by
  unfold operands
  cases hop : spec.operator with
  | notEmpty => exact .inr ⟨fun h => absurd rfl h, [], rfl⟩
  | equals | notEqual | contains | startsWith | endsWith | lessThan | greaterThan | between
  | includeAny | includeEquals | includeNone =>
    rcases readLiterals_cases f name spec.literals with ⟨raw, hraw, he⟩ | ⟨hnone, vs, hvs⟩
    · exact .inl ⟨raw, by decide, hraw, he⟩
    · exact .inr ⟨fun _ => hnone, vs, hvs⟩

/-! ### Absence of faults -/

section

variable {p : Property (S.Row t)} (hp : (S.metadata t).find? spec.propertyName = some p)
include hp

theorem not_fault_property : ¬spec.Fault t .propertyNotFound e := by
  rintro ⟨h⟩
  cases hp.symm.trans h

theorem not_fault_type (htype : spec.declaredType = p.type.family) : ¬spec.Fault t .typeMismatch e := by
  intro h
  cases h with
  | type hp' h =>
    cases hp.symm.trans hp'
    exact h htype

theorem not_fault_operator (hop : ¬spec.operator.Misapplied p.type) :
    ¬spec.Fault t .unsupportedOperation e := by
  intro h
  cases h with
  | operator hp' h =>
    cases hp.symm.trans hp'
    exact hop h

theorem not_fault_literal
    (hread : spec.operator ≠ .notEmpty →
      spec.literals.find? (fun l => (p.type.family.read? l).isNone) = none) :
    ¬spec.Fault t .valueParseError e := by
  intro h
  cases h with
  | literal hp' hop h =>
    cases hp.symm.trans hp'
    cases (hread hop).symm.trans h

end

theorem not_fault_count (hcount : ∀ n, spec.operator.arity = .exactly n → spec.literals.length = n) :
    ¬spec.Fault t .invalidArity e := by
  intro h
  cases h with
  | count hn h => exact h (hcount _ hn)

/-- A filter fails its checks with the first of its faults, or passes them and has none. -/
theorem check_cases (spec : FilterSpec) (t : S.Entity) :
    (∃ code e, spec.check t = .error e ∧ spec.Fault t code e ∧ spec.IsFirst t code) ∨
      ((∃ out, spec.check t = .ok out) ∧ ∀ code e, ¬spec.Fault t code e) := by
  rw [check, Metadata.resolve]
  cases hp : (S.metadata t).find? spec.propertyName with
  | none => exact .inl ⟨_, _, rfl, .property hp, List.forall_mem_nil _⟩
  | some p =>
    have hname : p.name = spec.propertyName := Metadata.name_of_find? hp
    -- a check that passes leaves a fault out, which the checks after it need to be the first
    have hproperty : ∀ e, ¬spec.Fault t .propertyNotFound e := fun _ => not_fault_property hp
    simp only [bind, Except.bind, hname]
    by_cases htype : spec.declaredType = p.type.family
    case neg =>
      rw [checkType, if_neg htype]
      exact .inl ⟨_, _, rfl, .type hp htype, List.forall_mem_singleton.mpr hproperty⟩
    have hnotype : ∀ e, ¬spec.Fault t .typeMismatch e := fun _ => not_fault_type hp htype
    rw [checkType_of_eq htype]
    by_cases hop : spec.operator.Misapplied p.type
    case pos =>
      rw [FilterOperator.checkProperty, if_neg (mt FilterOperator.appliesTo_iff.mp (not_not.mpr hop))]
      exact .inl ⟨_, _, rfl, .operator hp hop,
        List.forall_mem_cons.mpr ⟨hproperty, List.forall_mem_singleton.mpr hnotype⟩⟩
    have hnooperator : ∀ e, ¬spec.Fault t .unsupportedOperation e := fun _ => not_fault_operator hp hop
    rw [checkProperty_of_not_misapplied hop]
    rcases checkArity_cases spec.operator spec.propertyName spec.literals.length with
      ⟨n, hn, hcount, harity⟩ | ⟨harity, hcount⟩
    · rw [harity]
      exact .inl ⟨_, _, rfl, .count hn hcount, List.forall_mem_cons.mpr ⟨hproperty,
        List.forall_mem_cons.mpr ⟨hnotype, List.forall_mem_singleton.mpr hnooperator⟩⟩⟩
    have hnocount : ∀ e, ¬spec.Fault t .invalidArity e := fun _ => not_fault_count hcount
    rw [harity]
    rcases operands_cases spec p.type.family spec.propertyName with ⟨raw, hlooks, hraw, he⟩ | ⟨hread, vs, hvs⟩
    · rw [he]
      exact .inl ⟨_, _, rfl, .literal hp hlooks hraw, List.forall_mem_cons.mpr ⟨hproperty,
        List.forall_mem_cons.mpr ⟨hnotype, List.forall_mem_cons.mpr ⟨hnooperator,
          List.forall_mem_singleton.mpr hnocount⟩⟩⟩⟩
    · rw [hvs]
      refine .inr ⟨⟨_, rfl⟩, fun code e h => ?_⟩
      cases h with
      | property h => exact hproperty _ (.property h)
      | type hq h => exact hnotype _ (.type hq h)
      | operator hq h => exact hnooperator _ (.operator hq h)
      | count hn h => exact hnocount _ (.count hn h)
      | literal hq hlooks h => exact not_fault_literal hp hread (.literal hq hlooks h)

/-! ### Reports -/

/-- Of two codes one comes first. -/
theorem eq_or_mem_takeWhile : ∀ code ∈ requestCodes, ∀ code' ∈ requestCodes, code = code' ∨
    code ∈ requestCodes.takeWhile (· ≠ code') ∨ code' ∈ requestCodes.takeWhile (· ≠ code) := by
  decide

/-- No two faults are the first. -/
theorem Fault.eq_of_isFirst (h : spec.Fault t code e) (hfirst : spec.IsFirst t code)
    (h' : spec.Fault t code' e') (hfirst' : spec.IsFirst t code') : e = e' := by
  rcases eq_or_mem_takeWhile code h.code_mem code' h'.code_mem with rfl | hlt | hlt
  · exact h.unique h'
  · exact absurd h (hfirst' code hlt e)
  · exact absurd h' (hfirst code' hlt e')

theorem Fault.property_eq (h : spec.Fault t code e) : e.context.property = some spec.propertyName := by
  cases h with
  | property => exact QueryError.property_propertyNotFound _ _ _
  | type | operator | count | literal => rfl

/-- A filter is reported with the first of its faults, or it has a specification and no fault. -/
theorem toSpecification_fault_cases (spec : FilterSpec) (mode : CaseMode) (t : S.Entity) (s : Supply) :
    (∃ code e, (spec.toSpecification mode t s).1 = .error (spec.blame t e) ∧ spec.Fault t code e ∧
        spec.IsFirst t code) ∨
      ((∃ a, (spec.toSpecification mode t s).1 = .ok a) ∧ ∀ code e, ¬spec.Fault t code e) := by
  rcases check_cases spec t with ⟨code, e, he, hfault, hfirst⟩ | ⟨⟨out, hout⟩, hnone⟩
  · exact .inl ⟨code, e, toSpecification_eq_error (mapError_eq_error_iff.mpr ⟨e, he, rfl⟩) s, hfault, hfirst⟩
  · obtain ⟨a, -, ha, -⟩ := exists_toSpecification mode (mapError_eq_ok_iff.mpr hout) s
    exact .inr ⟨⟨a, ha⟩, hnone⟩

/-- A filter that only asks whether the value is empty is the same filter with other literals. -/
theorem toSpecification_notEmpty (hop : spec.operator = .notEmpty) (value : Option String)
    (values : List String) (mode : CaseMode) (t : S.Entity) (s : Supply) :
    FilterSpec.toSpecification { spec with value, values } mode t s = spec.toSpecification mode t s := by
  have hcheck : FilterSpec.check { spec with value, values } t = spec.check t := by
    simp only [check, operands, FilterOperator.checkArity, hop, FilterOperator.arity]
  simp only [toSpecification, hcheck]
  rfl

/-- A filter fails exactly if it has a fault, and then with the first of its faults, whatever else is wrong.
The error says the entity, the property and what was done. Literals of a filter that only asks whether the value
is empty do not matter. -/
theorem toSpecification_reports_first (spec : FilterSpec) (mode : CaseMode) (t : S.Entity) (s : Supply) :
    ((∃ e, (spec.toSpecification mode t s).1 = .error e) ↔ ∃ code e, spec.Fault t code e) ∧
      (∀ e, (spec.toSpecification mode t s).1 = .error e ↔
        ∃ code e', spec.Fault t code e' ∧ spec.IsFirst t code ∧ e = spec.blame t e' ∧ e.code = code) ∧
      (∀ e, (spec.toSpecification mode t s).1 = .error e →
        e.context.entity = some (S.nameOf t) ∧ e.context.property = some spec.propertyName ∧
          e.context.operation = some s!"Translating {spec.operator.name} filter on '{spec.propertyName}'") ∧
      (spec.operator = .notEmpty → ∀ value values,
        FilterSpec.toSpecification { spec with value, values } mode t s = spec.toSpecification mode t s) := by
  refine ⟨?_, ?_, ?_, fun hop value values => toSpecification_notEmpty hop value values mode t s⟩
  · rcases toSpecification_fault_cases spec mode t s with ⟨code, e, he, hfault, -⟩ | ⟨⟨a, ha⟩, hnone⟩
    · exact ⟨fun _ => ⟨code, e, hfault⟩, fun _ => ⟨_, he⟩⟩
    · refine ⟨fun ⟨e, he⟩ => ?_, fun ⟨code, e, hfault⟩ => absurd hfault (hnone code e)⟩
      cases ha.symm.trans he
  · intro e
    rcases toSpecification_fault_cases spec mode t s with ⟨code, e₀, he, hfault, hfirst⟩ | ⟨⟨a, ha⟩, hnone⟩
    · rw [he]
      constructor
      · rintro ⟨⟩
        exact ⟨code, e₀, hfault, hfirst, rfl, hfault.code_eq⟩
      · rintro ⟨code', e', hfault', hfirst', rfl, -⟩
        rw [hfault.eq_of_isFirst hfirst hfault' hfirst']
    · rw [ha]
      exact ⟨nofun, fun ⟨code, e', hfault, _⟩ => absurd hfault (hnone code e')⟩
  · intro e he
    rcases toSpecification_fault_cases spec mode t s with ⟨code, e₀, he₀, hfault, -⟩ | ⟨⟨a, ha⟩, -⟩
    · cases he₀.symm.trans he
      exact ⟨rfl, hfault.property_eq, rfl⟩
    · cases ha.symm.trans he

/-- The age of a person is no text and has no parts, two literals are one too many, and neither is a number. What
is reported is the declared type. -/
theorem toSpecification_reports_first_age :
    let spec : FilterSpec := ⟨"Age", .string, .contains, some "old", ["young"]⟩
    (∀ code ∈ [.unsupportedOperation, .invalidArity, .valueParseError], ∃ e, spec.Fault People.person code e) ∧
      (∃ e, (spec.toSpecification .ordinal People.person {}).1 = .error e ∧ e.code = .typeMismatch) ∧
      FilterSpec.toSpecification ⟨"Age", .integer, .notEmpty, some "old", ["young"]⟩ .ordinal People.person {} =
        FilterSpec.toSpecification ⟨"Age", .integer, .notEmpty, none, []⟩ .ordinal People.person {} := by
  intro spec
  have hp : (People.schema.metadata People.person).find? spec.propertyName = some People.ageProperty := rfl
  have htype := Fault.type hp (by decide)
  have hfirst : spec.IsFirst People.person .typeMismatch :=
    List.forall_mem_singleton.mpr fun _ => not_fault_property hp
  have hread : spec.literals.find? (fun l => (Family.integer.read? l).isNone) = some "old" := by
    decide +kernel
  have hoperator : spec.operator.Misapplied People.ageProperty.type :=
    .text nofun (by decide) nofun
  refine ⟨?_, ?_, ?_⟩
  · simp only [List.forall_mem_cons]
    exact ⟨⟨_, .operator hp hoperator⟩, ⟨_, .count rfl (by decide)⟩, ⟨_, .literal hp (by decide) hread⟩,
      List.forall_mem_nil _⟩
  · exact ⟨_, ((toSpecification_reports_first spec .ordinal People.person {}).2.1 _).mpr
      ⟨_, _, htype, hfirst, rfl, htype.code_eq⟩, htype.code_eq⟩
  · exact (toSpecification_reports_first ⟨"Age", .integer, .notEmpty, none, []⟩ .ordinal People.person
      {}).2.2.2 rfl (some "old") ["young"]

end FilterSpec

end EntityQuery

import EntityQuery.Proofs.People
import EntityQuery.Proofs.Request.Execution
import EntityQuery.Proofs.Text.Lowercase

/-!
# Ignoring case

To ignore case is to compare lower cases, which is meant to admit more texts than to compare the texts
themselves. It does so for equality. A text that starts with a literal, ends with it or contains it is another
matter: the literal is turned into lower case on its own, where a capital sigma may end a word that goes on in
the text. Ignoring case admits the text if the sigmas of the literal are kept at some place where the operator
finds it, and for beginnings and ends only then (`FilterOperator.means_ignoreCase_iff`). So a row is dropped
only because of a sigma at an edge of the literal (`ignoreCase_admits`).
-/

namespace EntityQuery

namespace FilterOperator

/-- What may stand before and after a literal in a text of which the operator holds. -/
inductive Places : FilterOperator → List Char → List Char → Prop where
  | equals : Places equals [] []
  | contains (u v : List Char) : Places contains u v
  | startsWith (v : List Char) : Places startsWith [] v
  | endsWith (u : List Char) : Places endsWith u []

/-- The operators that find a literal in a text. -/
def finders : List FilterOperator := [equals, contains, startsWith, endsWith]

variable {op : FilterOperator} {s l : String} {u v : List Char}

theorem equal_ordinal_iff {f : Family} {a v : Value} : Equal .ordinal f a v ↔ v.compare? a = some .eq := by
  rw [Equal, if_neg]
  rintro ⟨⟨⟩, -⟩

theorem equal_string_iff {mode : CaseMode} :
    Equal mode .string (.string l) (.string s) ↔ mode.fold s.toList = mode.fold l.toList := by
  cases mode with
  | ordinal =>
    rw [equal_ordinal_iff, ← Value.looseEq_iff, Value.looseEq_string_iff]
    exact String.toList_inj.symm
  | ignoreCase => simp [Equal, CaseMode.fold]

theorem hasPart_string_iff {mode : CaseMode} {R : List Char → List Char → Prop} :
    HasPart mode R (.string l) (.string s) ↔ R (mode.fold l.toList) (mode.fold s.toList) := by
  constructor
  · rintro ⟨s', l', hs, hl, h⟩
    cases hs
    cases hl
    exact h
  · exact fun h => ⟨s, l, rfl, rfl, h⟩

/-- A finder holds of the texts that have the literal at one of its places. -/
theorem means_finder_iff (hop : op ∈ finders) {mode : CaseMode} :
    op.Means mode .string [.string l] (.string s) ↔
      ∃ u v, op.Places u v ∧ mode.fold s.toList = u ++ mode.fold l.toList ++ v := by
  cases op with
  | equals =>
    rw [Means, exists_single_iff, equal_string_iff]
    constructor
    · exact fun h => ⟨[], [], .equals, by rw [h, List.nil_append, List.append_nil]⟩
    · rintro ⟨-, -, ⟨⟩, h⟩
      rwa [List.nil_append, List.append_nil] at h
  | contains =>
    rw [Means, exists_single_iff, hasPart_string_iff]
    constructor
    · rintro ⟨u, v, h⟩
      exact ⟨u, v, .contains u v, h.symm⟩
    · rintro ⟨u, v, -, h⟩
      exact ⟨u, v, h.symm⟩
  | startsWith =>
    rw [Means, exists_single_iff, hasPart_string_iff]
    constructor
    · rintro ⟨v, h⟩
      exact ⟨[], v, .startsWith v, h.symm⟩
    · rintro ⟨-, v, ⟨⟩, h⟩
      exact ⟨v, h.symm⟩
  | endsWith =>
    rw [Means, exists_single_iff, hasPart_string_iff]
    constructor
    · rintro ⟨u, h⟩
      exact ⟨u, [], .endsWith u, by rw [List.append_nil, h]⟩
    · rintro ⟨u, -, ⟨⟩, h⟩
      exact ⟨u, by rw [h, List.append_nil]⟩
  | notEqual | notEmpty | lessThan | greaterThan | between | includeAny | includeEquals | includeNone =>
    exact absurd hop (by decide)

/-- Where a beginning, an end or the whole of a text is a literal, the text is admitted without regard to case if
the sigmas of the literal are kept, and only then. -/
theorem means_ignoreCase_iff (h : op.Places u v) (hop : op ≠ contains) (hs : s.toList = u ++ l.toList ++ v) :
    op.Means .ignoreCase .string [.string l] (.string s) ↔ Text.KeepsSigmas u l.toList v := by
  cases h with
  | equals =>
    refine iff_of_true ((means_finder_iff (by decide)).mpr ⟨[], [], .equals, ?_⟩) .alone
    rw [hs, List.nil_append, List.append_nil, List.nil_append, List.append_nil]
  | contains => exact absurd rfl hop
  | startsWith =>
    rw [Means, exists_single_iff, hasPart_string_iff, hs]
    exact Text.lowerChars_prefix_iff
  | endsWith =>
    rw [Means, exists_single_iff, hasPart_string_iff, hs, List.append_nil]
    exact Text.lowerChars_suffix_iff

/-- Without regard to case, a finder holds of a text that has the literal at one of its places with all sigmas
kept. -/
theorem means_ignoreCase (h : op.Places u v) (hs : s.toList = u ++ l.toList ++ v)
    (hkeeps : Text.KeepsSigmas u l.toList v) : op.Means .ignoreCase .string [.string l] (.string s) := by
  by_cases hop : op = contains
  · subst hop
    rw [Means, exists_single_iff, hasPart_string_iff, hs]
    exact Text.lowerChars_infix hkeeps
  · exact (means_ignoreCase_iff h hop hs).mpr hkeeps

/-- Only texts have parts. -/
theorem Accepts.family_eq {t : PropertyType} {ls : List Value} (h : op.Accepts t ls)
    (hop : op ∈ [contains, startsWith, endsWith]) : t.family = .string := by
  have happlies : (if t.isCollection then false else t.family.isTextual) = true := by
    have h := h.applies
    cases op with
    | contains | startsWith | endsWith => exact h
    | equals | notEqual | notEmpty | lessThan | greaterThan | between | includeAny | includeEquals
    | includeNone => exact absurd hop (by decide)
  split at happlies
  · cases happlies
  · exact Family.isTextual_iff.mp happlies

theorem exists_string_of_compare? {v : Value} {o : Ordering} (h : v.compare? (.string l) = some o) :
    ∃ s, v = .string s := by
  cases v with
  | string s => exact ⟨s, rfl⟩
  | _ => cases h

/-- What a finder finds is a literal in a text, unless it asks whether other values are equal. -/
theorem Accepts.texts_of_means {t : PropertyType} {ls : List Value} {v : Value} (h : op.Accepts t ls)
    (hop : op ∈ finders) (hmeans : op.Means .ordinal t.family ls v) :
    (op = equals ∧ t.family ≠ .string) ∨ t.family = .string ∧ ∃ s l, v = .string s ∧ ls = [.string l] := by
  have hpart : ∀ {R}, (∃ l, ls = [l] ∧ HasPart .ordinal R l v) → ∃ s l, v = .string s ∧ ls = [.string l] := by
    rintro R ⟨-, rfl, s, l, rfl, rfl, -⟩
    exact ⟨s, l, rfl, rfl⟩
  cases op with
  | equals =>
    by_cases hf : t.family = .string
    · obtain ⟨l, rfl, hequal⟩ := hmeans
      obtain ⟨l, rfl⟩ := h.texts hf l (List.mem_singleton.mpr rfl)
      obtain ⟨s, rfl⟩ := exists_string_of_compare? (equal_ordinal_iff.mp hequal)
      exact .inr ⟨hf, s, l, rfl, rfl⟩
    · exact .inl ⟨rfl, hf⟩
  | contains | startsWith | endsWith => exact .inr ⟨h.family_eq (by decide), hpart hmeans⟩
  | notEqual | notEmpty | lessThan | greaterThan | between | includeAny | includeEquals | includeNone =>
    exact absurd hop (by decide)

variable {S : Schema}

/-- The condition of a finder holds where the operator does. -/
theorem condition_finder_holdsAt_iff (hop : op ∈ finders) {o : Operand S} (ho : o.type.family = .string)
    {x : S.AnyRow} (hx : o.expr.valueAt x = .string s) :
    (op.condition o [.string l]).holdsAt x = true ↔ op.Means o.mode .string [.string l] (.string s) := by
  cases op with
  | equals =>
    rw [Means, exists_single_iff, ← ho, ← hx]
    exact Operand.eq_holdsAt_iff
  | contains =>
    rw [Means, exists_single_iff, ← hx]
    exact Operand.contains_holdsAt_iff
  | startsWith =>
    rw [Means, exists_single_iff, ← hx]
    exact Operand.startsWith_holdsAt_iff
  | endsWith =>
    rw [Means, exists_single_iff, ← hx]
    exact Operand.endsWith_holdsAt_iff
  | notEqual | notEmpty | lessThan | greaterThan | between | includeAny | includeEquals | includeNone =>
    exact absurd hop (by decide)

end FilterOperator

variable {S : Schema}

namespace FilterSpec

variable {t : S.Entity} {spec : FilterSpec} {row : S.Row t}

/-- The row has the literal of the filter as a part, and a sigma of the literal changes its form wherever it is
found. That sigma is at an edge of the literal. -/
inductive LosesSigma (spec : FilterSpec) (t : S.Entity) (row : S.Row t) : Prop where
  | intro {p : Property (S.Row t)} {s l : String} (operator_ne : spec.operator ≠ .equals)
    (property : (S.metadata t).find? spec.propertyName = some p) (value : p.read row = .string s)
    (literal : spec.literals = [l])
    (lost : ∀ u v, spec.operator.Places u v → s.toList = u ++ l.toList ++ v → ¬Text.KeepsSigmas u l.toList v)
    (edge : ∃ x y, l.toList = x ++ 'Σ' :: y ∧
      ((∀ c ∈ x, Text.isCaseIgnorable c = true) ∨ ∀ c ∈ y, Text.isCaseIgnorable c = true))

/-- A row that a finder selects is selected without regard to case, or a sigma of the literal is not kept. -/
theorem selects_ignoreCase {p : Property (S.Row t)} {ls : List Value} (hcheck : spec.check t = .ok (p, ls))
    (hop : spec.operator ∈ FilterOperator.finders) (h : spec.Selects .ordinal t row) :
    spec.Selects .ignoreCase t row ∨ spec.LosesSigma t row := by
  rw [selects_iff hcheck] at h ⊢
  obtain ⟨hfind, haccepts, hread⟩ := check_eq_ok hcheck
  rcases haccepts.texts_of_means hop h with ⟨heq, hf⟩ | ⟨hf, s, l, hs, rfl⟩
  · -- other values than texts have no case
    refine .inl ?_
    rw [heq] at h ⊢
    obtain ⟨l, rfl, hequal⟩ := h
    refine ⟨l, rfl, ?_⟩
    rw [FilterOperator.Equal, if_neg fun hmode => hf hmode.2]
    exact FilterOperator.equal_ordinal_iff.mp hequal
  · rw [hf, hs] at h ⊢
    by_cases hkept : ∃ u v, spec.operator.Places u v ∧ s.toList = u ++ l.toList ++ v ∧
        Text.KeepsSigmas u l.toList v
    · obtain ⟨u, v, hplace, htext, hkeeps⟩ := hkept
      exact .inl (FilterOperator.means_ignoreCase hplace htext hkeeps)
    · have hlost : ∀ u v, spec.operator.Places u v → s.toList = u ++ l.toList ++ v →
          ¬Text.KeepsSigmas u l.toList v := fun u v hplace htext hkeeps =>
        hkept ⟨u, v, hplace, htext, hkeeps⟩
      obtain ⟨u, v, hplace, htext⟩ := (FilterOperator.means_finder_iff hop).mp h
      have hlosing := hlost u v hplace htext
      refine .inr (.intro (fun heq => ?_) hfind hs ?_ hlost (Text.exists_edge_of_not_keepsSigmas hlosing))
      · rw [heq] at hplace
        cases hplace
        exact hlosing .alone
      · have hlooks : spec.operator ≠ .notEmpty := by
          intro heq
          rw [heq] at hop
          exact absurd hop (by decide)
        have hread := hread hlooks
        rw [hf] at hread
        obtain ⟨raw, hliterals, hraw⟩ := List.map_eq_singleton_iff.mp hread
        cases hraw
        exact hliterals

end FilterSpec

open FilterOperator in
/-- Whatever text an operand has, a finder holds of it character by character if the literal is at one of the
operator's places. It then holds without regard to case if the sigmas of the literal are kept there, and, but for
`contains`, only then. So under a configuration that ignores case a filter for equality selects all rows that it
selects under one that does not, and a filter for a part drops only those whose sigmas are lost. -/
theorem ignoreCase_admits (t : S.Entity) :
    (∀ (op : FilterOperator) (o : Operand S) (x : S.AnyRow) (s l : String), op ∈ finders →
      o.type.family = .string → o.expr.valueAt x = .string s →
        ((op.condition (o.withMode .ordinal) [.string l]).holdsAt x = true ↔
          ∃ u v, op.Places u v ∧ s.toList = u ++ l.toList ++ v) ∧
        ∀ u v, op.Places u v → s.toList = u ++ l.toList ++ v →
          (Text.KeepsSigmas u l.toList v →
            (op.condition (o.withMode .ignoreCase) [.string l]).holdsAt x = true) ∧
          (op ≠ contains → (op.condition (o.withMode .ignoreCase) [.string l]).holdsAt x = true →
            Text.KeepsSigmas u l.toList v)) ∧
    ∀ (spec : FilterSpec) (s s' : Supply) (a : Specification S t), spec.operator ∈ finders →
      (spec.toSpecification .ordinal t s).1 = .ok a →
        ∃ b, (spec.toSpecification .ignoreCase t s').1 = .ok b ∧
          ∀ row, a.isSatisfiedBy row = .ok true → b.isSatisfiedBy row = .ok true ∨ spec.LosesSigma t row := by
  constructor
  · intro op o x s l hop hf hx
    have hcondition : ∀ mode, (op.condition (o.withMode mode) [.string l]).holdsAt x = true ↔
        op.Means mode .string [.string l] (.string s) := fun mode =>
      condition_finder_holdsAt_iff hop (o := o.withMode mode) hf hx
    refine ⟨(hcondition _).trans (means_finder_iff hop), fun u v hplace htext => ⟨fun hkeeps => ?_, ?_⟩⟩
    · exact (hcondition _).mpr (means_ignoreCase hplace htext hkeeps)
    · exact fun hne h => (means_ignoreCase_iff hplace hne htext).mp ((hcondition _).mp h)
  · intro spec s s' a hop ha
    obtain ⟨p, ls, hcheck, -⟩ := FilterSpec.toSpecification_eq_ok ha
    have hchecked : spec.checked t = .ok (p, ls) := mapError_eq_ok_iff.mpr hcheck
    obtain ⟨a', f, ha', hf, hfs⟩ := FilterSpec.exists_toSpecification .ordinal hchecked s
    obtain ⟨b, g, hb, hg, hgs⟩ := FilterSpec.exists_toSpecification .ignoreCase hchecked s'
    obtain rfl := Except.ok.inj (ha.symm.trans ha')
    refine ⟨b, hb, fun row hrow => ?_⟩
    rw [hf.direct, Except.ok.injEq, hfs] at hrow
    rw [hg.direct, Except.ok.injEq, hgs]
    exact FilterSpec.selects_ignoreCase hcheck hop hrow

/-- The sigma at the end of `ΑΣ` ends a word in `ΑΣ Α` as well, so a name that starts with the one word and goes on with
another is selected whether case is ignored or not. -/
theorem ignoreCase_admits_words :
    let spec := FilterSpec.mk "Name" .string .startsWith (some "ΑΣ") []
    let row : People.schema.Row People.person := People.Person.mk "ΑΣ Α" none People.acme
    Text.KeepsSigmas [] "ΑΣ".toList " Α".toList ∧
      ∃ a b, (spec.toSpecification .ordinal People.person {}).1 = .ok a ∧
        (spec.toSpecification .ignoreCase People.person {}).1 = .ok b ∧
        a.isSatisfiedBy row = .ok true ∧ b.isSatisfiedBy row = .ok true := by
  intro spec row
  have hkeeps : Text.KeepsSigmas [] "ΑΣ".toList " Α".toList :=
    Text.lowerBetween_eq_lowerChars_iff.mp (by decide +kernel)
  obtain ⟨a, ha⟩ : ∃ a, (spec.toSpecification .ordinal People.person {}).1 = .ok a := ⟨_, rfl⟩
  have hrow : a.isSatisfiedBy row = .ok true := by
    cases ha
    decide +kernel
  obtain ⟨b, hb, hrows⟩ := (ignoreCase_admits People.person).2 _ {} {} a (by decide) ha
  refine ⟨hkeeps, a, b, ha, hb, hrow, ?_⟩
  rcases hrows row hrow with h | ⟨-, hfind, hvalue, hl, hlost, -⟩
  · exact h
  · -- the sigma is kept where the name starts
    cases hfind
    cases hvalue
    cases hl
    exact absurd hkeeps (hlost [] " Α".toList (.startsWith _) (by decide))

/-- A name that starts with a word need not do so in lower case: the sigma that ends the word `ΑΣ` does not end
the word `ΑΣΑ`. -/
theorem ignoreCase_drops :
    ¬∀ (spec : FilterSpec) (a b : Specification People.schema People.person),
      spec.operator ∈ FilterOperator.finders →
        (spec.toSpecification .ordinal People.person {}).1 = .ok a →
        (spec.toSpecification .ignoreCase People.person {}).1 = .ok b →
        ∀ row, a.isSatisfiedBy row = .ok true → b.isSatisfiedBy row = .ok true := by
  intro h
  let spec := FilterSpec.mk "Name" .string .startsWith (some "ΑΣ") []
  let row : People.schema.Row People.person := People.Person.mk "ΑΣΑ" none People.acme
  obtain ⟨a, ha⟩ : ∃ a, (spec.toSpecification .ordinal People.person {}).1 = .ok a := ⟨_, rfl⟩
  obtain ⟨b, hb⟩ : ∃ b, (spec.toSpecification .ignoreCase People.person {}).1 = .ok b := ⟨_, rfl⟩
  have hrow : a.isSatisfiedBy row = .ok true := by
    cases ha
    decide +kernel
  have hdropped : b.isSatisfiedBy row = .ok false := by
    cases hb
    decide +kernel
  cases hdropped.symm.trans (h spec a b (by decide) ha hb row hrow)

end EntityQuery

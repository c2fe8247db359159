import EntityQuery.Proofs.Request.Execution

/-!
# Conjunctions of filters

Each filter of a list is translated about a parameter of its own, and the translations are joined one after
the other, each of them renamed to the parameter of the first. What comes out is their conjunction, and
forgets the order (`FilterConfig.select_conjoins`): a list is refused if one of its filters would be refused
alone, for the first such filter, and otherwise a row satisfies it exactly if it satisfies each filter alone.
Hence lists with the same members select the same rows, and longer lists select no more.
-/

namespace EntityQuery

variable {S : Schema} {t : S.Entity}

/-! ### Single filters -/

namespace FilterSpec

variable {spec : FilterSpec} {mode : CaseMode}

/-- Translated alone, the filter has a specification, and the row satisfies it. -/
def Admits (spec : FilterSpec) (mode : CaseMode) (t : S.Entity) (row : S.Row t) : Prop :=
  ∀ s, ∃ a, (spec.toSpecification mode t s).1 = .ok a ∧ a.isSatisfiedBy row = .ok true

/-- A filter is refused alone exactly if it does not pass its checks, whatever numbers are unused. -/
theorem toSpecification_eq_error_iff {e : QueryError} {s : Supply} :
    (spec.toSpecification mode t s).1 = .error e ↔ spec.checked t = .error e := by
  refine ⟨fun h => ?_, fun h => toSpecification_eq_error h s⟩
  cases hchecked : spec.checked t with
  | error e' =>
    obtain rfl := Except.error.inj ((toSpecification_eq_error hchecked s).symm.trans h)
    rfl
  | ok out =>
    obtain ⟨a, -, ha, -⟩ := exists_toSpecification mode hchecked s
    cases ha.symm.trans h

/-- The specification of a filter accepts what the filter selects. -/
theorem admits_iff_selects {out : Property (S.Row t) × List Value} (h : spec.checked t = .ok out)
    (row : S.Row t) : spec.Admits mode t row ↔ spec.Selects mode t row := by
  constructor
  · intro hadmits
    obtain ⟨a, ha, hrow⟩ := hadmits {}
    obtain ⟨a', f, ha', hmeans, hf⟩ := exists_toSpecification mode h {}
    obtain rfl := Except.ok.inj (ha'.symm.trans ha)
    exact (hf row).mp (Except.ok.inj ((hmeans.direct row).symm.trans hrow))
  · intro hselects s
    obtain ⟨a, f, ha, hmeans, hf⟩ := exists_toSpecification mode h s
    exact ⟨a, ha, (hmeans.direct row).trans (congrArg Except.ok ((hf row).mpr hselects))⟩

end FilterSpec

/-! ### Lists of filters -/

namespace FilterConfig

variable {c : FilterConfig} {specs specs' : List FilterSpec} {s s' : Supply} {a a' : Specification S t}

/-- A list within the limit is refused for the first filter that is refused alone. -/
theorem select_eq_error_iff (h : specs.length ≤ c.maxFilters) {e : QueryError} :
    (c.select t specs s).1 = .error e ↔
      ∀ s', FirstError (fun spec => (spec.toSpecification c.stringComparison t s').1) specs e := by
  rcases select_of_le h t s with ⟨e', he', hfirst⟩ | ⟨a, -, ha, hchecks, -⟩
  · constructor
    · intro he s'
      obtain rfl := Except.error.inj (he'.symm.trans he)
      exact hfirst.of_errors fun _ _ => FilterSpec.toSpecification_eq_error_iff.symm
    · intro hall
      have hfirst' := (hall {}).of_errors fun _ _ => FilterSpec.toSpecification_eq_error_iff
      rw [he', hfirst.unique hfirst']
  · refine ⟨fun he => (nomatch ha.symm.trans he), fun hall => ?_⟩
    obtain ⟨spec, hmem, herror⟩ := (hall {}).exists_error
    obtain ⟨out, hout⟩ := hchecks spec hmem
    cases hout.symm.trans (FilterSpec.toSpecification_eq_error_iff.mp herror)

/-- A list within the limit is refused if and only if one of its filters is refused alone. -/
theorem select_fails_iff (h : specs.length ≤ c.maxFilters) :
    (∃ e, (c.select t specs s).1 = .error e) ↔
      ∃ spec ∈ specs, ∃ e, ∀ s', (spec.toSpecification c.stringComparison t s').1 = .error e := by
  constructor
  · rintro ⟨e, he⟩
    obtain ⟨spec, hmem, herror⟩ := ((select_eq_error_iff h).mp he {}).exists_error
    exact ⟨spec, hmem, e, fun _ =>
      FilterSpec.toSpecification_eq_error_iff.mpr (FilterSpec.toSpecification_eq_error_iff.mp herror)⟩
  · rintro ⟨spec, hmem, e, herror⟩
    rcases select_of_le h t s with ⟨e', he', -⟩ | ⟨-, -, -, hchecks, -⟩
    · exact ⟨e', he'⟩
    · obtain ⟨out, hout⟩ := hchecks spec hmem
      cases hout.symm.trans (FilterSpec.toSpecification_eq_error_iff.mp (herror {}))

/-- A list that has a specification is within the limit. -/
theorem length_le_of_select (h : (c.select t specs s).1 = .ok a) : specs.length ≤ c.maxFilters := by
  by_contra hlt
  rw [select_of_lt (Nat.not_le.mp hlt)] at h
  cases h

/-- What has a specification means the conjunction of the filters, each of them translated alone. -/
theorem exists_means_of_select (h : (c.select t specs s).1 = .ok a) :
    ∃ keep, a.Means keep ∧
      ∀ row, keep row = true ↔ ∀ spec ∈ specs, spec.Admits c.stringComparison t row := by
  rcases select_of_le (length_le_of_select h) t s with ⟨e, he, -⟩ | ⟨a', keep, ha', hchecks, hmeans, hkeep⟩
  · cases he.symm.trans h
  · obtain rfl := Except.ok.inj (ha'.symm.trans h)
    refine ⟨keep, hmeans, fun row => (hkeep row).trans (forall₂_congr fun spec hmem => ?_)⟩
    obtain ⟨out, hout⟩ := hchecks spec hmem
    exact (FilterSpec.admits_iff_selects hout row).symm

/-- Some of the filters of a list that has a specification have one, too. -/
theorem exists_select_of_subset (h : (c.select t specs s).1 = .ok a) (hsub : specs' ⊆ specs)
    (hlength : specs'.length ≤ c.maxFilters) (s' : Supply) : ∃ a', (c.select t specs' s').1 = .ok a' := by
  cases ha' : (c.select t specs' s').1 with
  | ok a' => exact ⟨a', rfl⟩
  | error e =>
    obtain ⟨spec, hmem, hfails⟩ := (select_fails_iff hlength).mp ⟨e, ha'⟩
    obtain ⟨e', he'⟩ := (select_fails_iff (length_le_of_select h)).mpr ⟨spec, hsub hmem, hfails⟩
    cases he'.symm.trans h

/-- More filters select no more rows, and the rows that they select are in the same order. -/
theorem filterRows_of_subset (h : (c.select t specs s).1 = .ok a) (h' : (c.select t specs' s').1 = .ok a')
    (hsub : specs' ⊆ specs) (rows : List (S.Row t)) :
    ∃ kept kept', a.filterRows rows = .ok kept ∧ a'.filterRows rows = .ok kept' ∧ kept.Sublist kept' := by
  obtain ⟨keep, hmeans, hkeep⟩ := exists_means_of_select h
  obtain ⟨keep', hmeans', hkeep'⟩ := exists_means_of_select h'
  refine ⟨_, _, hmeans.filterRows_eq rows, hmeans'.filterRows_eq rows, List.monotone_filter_right rows ?_⟩
  exact fun row hrow => (hkeep' row).mpr fun spec hmem => (hkeep row).mp hrow spec (hsub hmem)

/-- A list of filters is refused for its length, before any filter is looked at, or for the first filter
that is refused alone. Otherwise it has a specification, and a row satisfies it exactly if it satisfies the
specification of each filter by itself. So a list whose members are among those of the first has a
specification as well, which keeps all rows that were selected, and keeps no others if it has all the members,
in whatever order and however often. No filters select all rows. -/
theorem select_conjoins (c : FilterConfig) (t : S.Entity) (specs : List FilterSpec) (s : Supply) :
    (c.maxFilters < specs.length →
      c.select t specs s = (.error (QueryError.withEntity
        (.invalidArity "Filter list" s!"at most {c.maxFilters}" specs.length) (S.nameOf t)), s)) ∧
    (specs.length ≤ c.maxFilters →
      ((∃ e, (c.select t specs s).1 = .error e) ↔
        ∃ spec ∈ specs, ∃ e, ∀ s', (spec.toSpecification c.stringComparison t s').1 = .error e) ∧
      ∀ e, (c.select t specs s).1 = .error e ↔
        ∀ s', FirstError (fun spec => (spec.toSpecification c.stringComparison t s').1) specs e) ∧
    (∀ a, (c.select t specs s).1 = .ok a →
      (∃ keep, a.Means keep ∧
        ∀ row, keep row = true ↔ ∀ spec ∈ specs, spec.Admits c.stringComparison t row) ∧
      ∀ specs' ⊆ specs, specs'.length ≤ c.maxFilters → ∀ s', ∃ a', (c.select t specs' s').1 = .ok a' ∧
        ∀ rows, ∃ kept kept', a.filterRows rows = .ok kept ∧ a'.filterRows rows = .ok kept' ∧
          kept.Sublist kept' ∧ (specs ⊆ specs' → kept = kept')) ∧
    ∃ a, (c.select t [] s).1 = .ok a ∧ ∀ rows, a.filterRows rows = .ok rows := by
  refine ⟨fun hlt => select_of_lt hlt t s,
    fun hle => ⟨select_fails_iff hle, fun _ => select_eq_error_iff hle⟩,
    fun a ha => ⟨exists_means_of_select ha, fun specs' hsub hlength s' => ?_⟩, ?_⟩
  · obtain ⟨a', ha'⟩ := exists_select_of_subset ha hsub hlength s'
    refine ⟨a', ha', fun rows => ?_⟩
    obtain ⟨kept, kept', hkept, hkept', hle⟩ := filterRows_of_subset ha ha' hsub rows
    refine ⟨kept, kept', hkept, hkept', hle, fun hsup => ?_⟩
    -- the other way round, the second list has all the filters of the first one
    obtain ⟨kept₁, kept₁', hkept₁, hkept₁', hge⟩ := filterRows_of_subset ha' ha hsup rows
    obtain rfl := Except.ok.inj (hkept'.symm.trans hkept₁)
    obtain rfl := Except.ok.inj (hkept.symm.trans hkept₁')
    exact hle.antisymm hge
  · have hle : ([] : List FilterSpec).length ≤ c.maxFilters := Nat.zero_le _
    rcases select_of_le hle t s with ⟨e, -, hfirst⟩ | ⟨a, keep, ha, -, hmeans, hkeep⟩
    · cases hfirst
    · have hall : ∀ row, keep row = true := fun row => (hkeep row).mpr nofun
      exact ⟨a, ha, fun rows => by rw [hmeans.filterRows_eq, List.filter_eq_self.mpr fun row _ => hall row]⟩

/-- A person older than eighteen. -/
def older : FilterSpec := ⟨"Age", .integer, .greaterThan, some "18", []⟩

/-- A person whose name starts with a B. -/
def named : FilterSpec := ⟨"Name", .string, .startsWith, some "B", []⟩

/-- Two filters, of which there may be no more, select Bob, and do so in the other order, too. -/
theorem select_conjoins_people :
    (∃ a, (select { maxFilters := 2 } People.person [older, named] {}).1 = .ok a ∧
      a.filterRows [People.ada, People.bob] = .ok [People.bob] ∧
      older.Admits .ordinal People.person People.bob ∧
      ∃ a', (select { maxFilters := 2 } People.person [named, older] {}).1 = .ok a' ∧
        a'.filterRows [People.ada, People.bob] = .ok [People.bob]) ∧
    ∃ e, select { maxFilters := 2 } People.person [named, older, named] {} = (.error e, {}) := by
  have hmany := (select_conjoins { maxFilters := 2 } People.person [named, older, named] {}).1 (by decide)
  obtain ⟨-, -, hok, -⟩ := select_conjoins { maxFilters := 2 } People.person [older, named] {}
  refine ⟨⟨_, rfl, rfl, ?_⟩, _, hmany⟩
  obtain ⟨⟨keep, hmeans, hkeep⟩, hmembers⟩ := hok _ rfl
  have hbob : keep People.bob = true := Except.ok.inj (hmeans.direct People.bob).symm
  refine ⟨(hkeep People.bob).mp hbob older List.mem_cons_self, ?_⟩
  obtain ⟨a', ha', hrows⟩ := hmembers [named, older] (by simp) (by decide) {}
  obtain ⟨kept, kept', hkept, hkept', -, heq⟩ := hrows [People.ada, People.bob]
  obtain rfl : [People.bob] = kept := Except.ok.inj hkept
  rw [← heq (by simp)] at hkept'
  exact ⟨a', ha', hkept'⟩

end FilterConfig

end EntityQuery

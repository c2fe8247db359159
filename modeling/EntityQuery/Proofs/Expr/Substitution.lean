import EntityQuery.Expr.Substitution
import EntityQuery.Proofs.Expr.Compilation
import EntityQuery.Proofs.Expr.Operands
import Mathlib.Data.List.Forall2

/-!
# What substitution does to the meaning of expressions

Let a substitution put for the parameter `a` an entity expression `g` about the parameter `q`, which
leads from rows of `q` to rows of `a` (`Substitution.Leads`). What fits a place about `a` then fits it
about `q` after the substitution, and it denotes at a row what it denoted at the row to which `g` leads
(`moves_of_fits`). Projections that the expression already has come after `g`.

What a substitution does to one node is said once, whatever the node is (`Substitution.apply_cases`). An opaque
test can only follow if its subject is replaced by a parameter over the same type. Elsewhere the tests are
exactly what makes a substitution fail (`exists_test_of_apply_eq_error`, `applyTest_of_apply_eq_ok`).

Renaming is substitution by a parameter (`apply_replace_parameter`), so it keeps places and meaning
(`fits_rename`, `holdsAt_rename`).
-/

namespace EntityQuery

variable {S : Schema}

theorem bind_eq_error_iff {α β : Type} {r : Result α} {f : α → Result β} {err : QueryError} :
    (r >>= f) = .error err ↔ r = .error err ∨ ∃ a, r = .ok a ∧ f a = .error err := by
  cases r with
  | error e => simp [bind, Except.bind]
  | ok a => simp [bind, Except.bind]

theorem exists_mem_of_forall₂ {α β : Type} {R : α → β → Prop} {l : List α} {l' : List β}
    (h : List.Forall₂ R l l') : (∀ a ∈ l, ∃ b ∈ l', R a b) ∧ ∀ b ∈ l', ∃ a ∈ l, R a b := by
  induction h with
  | nil => exact ⟨nofun, nofun⟩
  | cons hR _ ih =>
    refine ⟨List.forall_mem_cons.mpr ⟨⟨_, List.mem_cons_self, hR⟩, fun a ha => ?_⟩,
      List.forall_mem_cons.mpr ⟨⟨_, List.mem_cons_self, hR⟩, fun b hb => ?_⟩⟩
    · obtain ⟨b, hb, hab⟩ := ih.1 a ha
      exact ⟨b, List.mem_cons_of_mem _ hb, hab⟩
    · obtain ⟨a, ha, hab⟩ := ih.2 b hb
      exact ⟨a, List.mem_cons_of_mem _ ha, hab⟩

/-! ### The tests of an expression -/

namespace Expr

mutual

/-- The opaque tests in an expression. -/
def tests : Expr S → List (OpaqueTest S)
  | .parameter _ | .constant _ => []
  | .member target _ | .project target _ => tests target
  | .compare _ l r | .and l r | .or l r => tests l ++ tests r
  | .call _ target args => tests target ++ testsOf args
  | .not inner => tests inner
  | .test t => [t]

/-- The opaque tests in several expressions. -/
def testsOf : List (Expr S) → List (OpaqueTest S)
  | [] => []
  | e :: rest => tests e ++ testsOf rest

end

theorem mem_testsOf {es : List (Expr S)} {t : OpaqueTest S} :
    t ∈ testsOf es ↔ ∃ e ∈ es, t ∈ e.tests := by
  induction es with
  | nil => simp [testsOf]
  | cons e rest ih => simp [testsOf, ih]

theorem mem_tests_iff {e : Expr S} {t : OpaqueTest S} :
    t ∈ e.tests ↔ e.node = .test t ∨ ∃ d ∈ e.operands, t ∈ d.tests := by
  cases e <;> simp [tests, node, operands, mem_testsOf, eq_comm]

theorem eq_test_of_node {e : Expr S} {t : OpaqueTest S} (h : e.node = .test t) : e = .test t := by
  cases e with
  | test u =>
    cases h
    rfl
  | parameter | constant | member | project | compare | call | and | or | not => cases h

theorem tests_eq_nil_of_testsOf {es : List (Expr S)} (h : testsOf es = []) {e : Expr S} (he : e ∈ es) :
    e.tests = [] := by
  refine List.eq_nil_iff_forall_not_mem.mpr fun t ht => ?_
  have : t ∈ testsOf es := mem_testsOf.mpr ⟨e, he, ht⟩
  rw [h] at this
  cases this

/-- In what fits a place, every test is of the parameter. -/
theorem Fits.subject_of_mem_tests {bound : Parameter S} {e : Expr S} {place : Place S}
    (h : Fits bound e place) {t : OpaqueTest S} (ht : t ∈ e.tests) : t.subject = bound := by
  induction h with
  | parameter | constant | truth => simp [tests] at ht
  | project _ ih | member _ ih | flag _ _ ih | not _ ih | asValue _ ih =>
    exact ih (by simpa [tests] using ht)
  | compare _ _ ihl ihr | and _ _ ihl ihr | or _ _ ihl ihr =>
    rw [tests, List.mem_append] at ht
    rcases ht with ht | ht
    · exact ihl ht
    · exact ihr ht
  | call _ _ _ iht iha =>
    rw [tests, List.mem_append, mem_testsOf] at ht
    rcases ht with ht | ⟨e, he, ht⟩
    · exact iht ht
    · exact iha e he ht
  | test hs =>
    rw [tests, List.mem_singleton] at ht
    rw [ht, hs]

/-- A row is not a value. -/
theorem Fits.valueAt_row {bound : Parameter S} {e : Expr S} {t : S.Entity}
    (h : Fits bound e (.row t)) (x : S.AnyRow) : e.valueAt x = .null := by
  cases e with
  | parameter | project => rfl
  | constant | member | compare | call | and | or | not | test => cases h

end Expr

namespace Substitution

open EntityQuery.Expr

variable {s : Substitution S}

attribute [local simp] apply applyEach

/-! ### One node -/

/-- The test cannot follow its subject, which is replaced by something other than a parameter over the same
type. -/
def Blocks (s : Substitution S) (t : OpaqueTest S) : Prop :=
  ∃ g, s.find? t.subject = some g ∧ ∀ p, g = .parameter p → p.entity ≠ t.subject.entity

/-- What a substitution puts where an expression was. -/
inductive Puts (s : Substitution S) : Expr S → Expr S → Prop where
  /-- A parameter gives way to its replacement. -/
  | replaced {p : Parameter S} {g : Expr S} (h : s.find? p = some g) : Puts s (.parameter p) g
  /-- A test goes over to the parameter that replaces its subject. -/
  | moved {t : OpaqueTest S} {p : Parameter S} (hp : s.find? t.subject = some (.parameter p))
    (h : p.entity = t.subject.entity) : Puts s (.test t) (.test (t.withSubject p h))
  /-- Any other node stays. -/
  | kept {d d' : Expr S} (hsubject : ∀ p, d.node.subject? = some p → s.find? p = none)
    (hnode : d'.node = d.node) : Puts s d d'

/-- A test stays, it is moved, or it is blocked. -/
theorem applyTest_cases (s : Substitution S) (t : OpaqueTest S) :
    (s.find? t.subject = none ∧ s.applyTest t = .ok (.test t)) ∨
    (∃ p h, s.find? t.subject = some (.parameter p) ∧ s.applyTest t = .ok (.test (t.withSubject p h))) ∨
    (s.Blocks t ∧ ∃ err, s.applyTest t = .error err) := by
  cases hg : s.find? t.subject with
  | none => exact .inl ⟨rfl, by rw [applyTest, hg]⟩
  | some g =>
    by_cases hp : ∃ p, g = .parameter p ∧ p.entity = t.subject.entity
    · obtain ⟨p, rfl, h⟩ := hp
      refine .inr (.inl ⟨p, h, rfl, ?_⟩)
      simp only [applyTest, hg, h, dif_pos]
    · have hblocks : s.Blocks t := ⟨g, hg, fun p hgp h => hp ⟨p, hgp, h⟩⟩
      refine .inr (.inr ⟨hblocks, ?_⟩)
      cases g with
      | parameter p =>
        have h : ¬p.entity = t.subject.entity := fun h => hp ⟨p, rfl, h⟩
        exact ⟨_, by simp only [applyTest, hg, h, dif_neg, not_false_iff]; rfl⟩
      | constant | member | project | compare | call | and | or | not | test =>
        exact ⟨_, by simp only [applyTest, hg]; rfl⟩

/-- The arguments of a call are substituted into one by one. -/
theorem applyEach_eq_ok {es es' : List (Expr S)} (h : s.applyEach es = .ok es') :
    List.Forall₂ (fun d d' => s.apply d = .ok d') es es' := by
  induction es generalizing es' with
  | nil =>
    obtain rfl := Except.ok.inj h
    exact .nil
  | cons d rest ih =>
    simp only [applyEach, bind_eq_ok_iff, Except.ok.injEq] at h
    obtain ⟨d', hd, rest', hrest, rfl⟩ := h
    exact .cons hd (ih hrest)

/-- A substitution puts one node in the place of another and goes on with its operands, unless the node gives
way to a replacement. -/
theorem apply_cases {e e' : Expr S} (h : s.apply e = .ok e') :
    s.Puts e e' ∧ ((∃ p, e = .parameter p ∧ s.find? p = some e') ∨
      List.Forall₂ (fun d d' => s.apply d = .ok d') e.operands e'.operands) := by
  cases e with
  | parameter p =>
    obtain rfl := Except.ok.inj h
    cases hp : s.find? p with
    | none => exact ⟨.kept (fun q hq => Option.some.inj hq ▸ hp) rfl, .inr .nil⟩
    | some g => exact ⟨.replaced hp, .inl ⟨p, rfl, hp⟩⟩
  | constant v =>
    obtain rfl := Except.ok.inj h
    exact ⟨.kept nofun rfl, .inr .nil⟩
  | member target m | project target m | not target =>
    simp only [apply, bind_eq_ok_iff, Except.ok.injEq] at h
    obtain ⟨target', htarget, rfl⟩ := h
    exact ⟨.kept nofun rfl, .inr (.cons htarget .nil)⟩
  | compare op l r | and l r | or l r =>
    simp only [apply, bind_eq_ok_iff, Except.ok.injEq] at h
    obtain ⟨l', hl, r', hr, rfl⟩ := h
    exact ⟨.kept nofun rfl, .inr (.cons hl (.cons hr .nil))⟩
  | call m target args =>
    simp only [apply, bind_eq_ok_iff, Except.ok.injEq] at h
    obtain ⟨target', htarget, args', hargs, rfl⟩ := h
    exact ⟨.kept nofun rfl, .inr (.cons htarget (applyEach_eq_ok hargs))⟩
  | test t =>
    rw [apply] at h
    rcases applyTest_cases s t with ⟨ht, ht'⟩ | ⟨p, hp, ht, ht'⟩ | ⟨-, err, ht'⟩
    · obtain rfl := Except.ok.inj (ht'.symm.trans h)
      exact ⟨.kept (fun q hq => Option.some.inj hq ▸ ht) rfl, .inr .nil⟩
    · obtain rfl := Except.ok.inj (ht'.symm.trans h)
      exact ⟨.moved ht hp, .inr .nil⟩
    · cases ht'.symm.trans h

/-! ### When a substitution succeeds -/

theorem exists_of_applyEach_eq_error {es : List (Expr S)} {err : QueryError}
    (h : s.applyEach es = .error err) : ∃ e ∈ es, s.apply e = .error err := by
  induction es with
  | nil => simp [applyEach] at h
  | cons a rest ih =>
    simp only [applyEach, bind_eq_error_iff, reduceCtorEq, and_false, exists_false, or_false] at h
    rcases h with h | ⟨a', -, h⟩
    · exact ⟨a, List.mem_cons_self, h⟩
    · obtain ⟨e, he, herr⟩ := ih h
      exact ⟨e, List.mem_cons_of_mem _ he, herr⟩

/-- An expression is moved only if each of its tests is. -/
theorem applyTest_of_apply_eq_ok {e e' : Expr S} (h : s.apply e = .ok e') {t : OpaqueTest S}
    (ht : t ∈ e.tests) : ∃ d, s.applyTest t = .ok d := by
  induction e using operands_induct generalizing e' with
  | step e ih =>
    rcases mem_tests_iff.mp ht with hnode | ⟨d, hd, ht⟩
    · obtain rfl := eq_test_of_node hnode
      exact ⟨e', h⟩
    · rcases (apply_cases h).2 with ⟨p, rfl, -⟩ | hoperands
      · cases hd
      · obtain ⟨d', -, hd'⟩ := (exists_mem_of_forall₂ hoperands).1 d hd
        exact ih d hd hd' ht

/-- What stops a substitution is one of the tests. -/
theorem exists_test_of_apply_eq_error {e : Expr S} {err : QueryError} (h : s.apply e = .error err) :
    ∃ t ∈ e.tests, s.applyTest t = .error err := by
  induction e using Expr.induct with
  | parameter | constant => simp [apply] at h
  | member target m ih | project target p ih | not e ih =>
    simp only [apply, bind_eq_error_iff, reduceCtorEq, and_false, exists_false, or_false] at h
    exact ih h
  | compare op l r ihl ihr | and l r ihl ihr | or l r ihl ihr =>
    simp only [apply, bind_eq_error_iff, reduceCtorEq, and_false, exists_false, or_false] at h
    rcases h with h | ⟨l', -, h⟩
    · obtain ⟨t, ht, herr⟩ := ihl h
      exact ⟨t, List.mem_append_left _ ht, herr⟩
    · obtain ⟨t, ht, herr⟩ := ihr h
      exact ⟨t, List.mem_append_right _ ht, herr⟩
  | call m target args iht iha =>
    simp only [apply, bind_eq_error_iff, reduceCtorEq, and_false, exists_false, or_false] at h
    rcases h with h | ⟨target', -, h⟩
    · obtain ⟨t, ht, herr⟩ := iht h
      exact ⟨t, List.mem_append_left _ ht, herr⟩
    · obtain ⟨e, he, herr⟩ := exists_of_applyEach_eq_error h
      obtain ⟨t, ht, herr⟩ := iha e he herr
      exact ⟨t, List.mem_append_right _ (mem_testsOf.mpr ⟨e, he, ht⟩), herr⟩
  | test t => exact ⟨t, List.mem_singleton.mpr rfl, h⟩

/-- What takes the place of parameters brings no tests along, if it has none. -/
theorem tests_of_apply_eq_ok (hs : ∀ p g, s.find? p = some g → g.tests = []) {e e' : Expr S}
    (h : s.apply e = .ok e') (he : e.tests = []) : e'.tests = [] := by
  induction e using operands_induct generalizing e' with
  | step e ih =>
    obtain ⟨hputs, hoperands⟩ := apply_cases h
    cases hputs with
    | replaced hp => exact hs _ _ hp
    | moved => cases he
    | kept hsubject hnode =>
      rcases hoperands with ⟨p, rfl, hp⟩ | hoperands
      · exact hs p e' hp
      have hnone : ∀ t, t ∉ e.tests := fun t ht => by
        rw [he] at ht
        cases ht
      refine List.eq_nil_iff_forall_not_mem.mpr fun t ht => ?_
      rcases mem_tests_iff.mp ht with ht | ⟨d', hd', ht⟩
      · exact hnone t (mem_tests_iff.mpr (.inl (hnode.symm.trans ht)))
      · obtain ⟨d, hd, happly⟩ := (exists_mem_of_forall₂ hoperands).2 d' hd'
        have hdtests : d.tests = [] := List.eq_nil_iff_forall_not_mem.mpr fun u hu =>
          hnone u (mem_tests_iff.mpr (.inr ⟨d, hd, hu⟩))
        rw [ih d hd happly hdtests] at ht
        cases ht

/-- A test that cannot follow is reported as an unsupported node. -/
theorem code_of_applyTest_eq_error {t : OpaqueTest S} {err : QueryError}
    (h : s.applyTest t = .error err) : err.code = .unsupportedNodeKind := by
  unfold applyTest at h
  split at h
  · cases h
  · split at h
    · cases h
    · cases h
      rfl
  · cases h
    rfl

/-- A test of a parameter in whose place something other than a parameter is put cannot follow. -/
theorem applyTest_ne_ok {t : OpaqueTest S} {g : Expr S} (hg : s.find? t.subject = some g)
    (hp : ∀ p, g ≠ .parameter p) (d : Expr S) : s.applyTest t ≠ .ok d := by
  unfold applyTest
  rw [hg]
  cases g with
  | parameter p => exact absurd rfl (hp p)
  | constant | member | project | compare | call | and | or | not | test => simp

/-! ### What is moved where -/

/-- The replacement of `a` is the entity expression `g` about `q`, which leads to rows of the type
of `a`. -/
structure Leads (s : Substitution S) (a q : Parameter S) (g : Expr S) : Prop where
  find?_eq : s.find? a = some g
  fits : g.Fits q (.row a.entity)

/-- The substitution takes `e` to an expression that fits the place about `q`, and that denotes at a row
what `e` denotes at the row to which `g` leads. -/
def Moves (s : Substitution S) (q : Parameter S) (g e : Expr S) (place : Place S) : Prop :=
  ∃ e', s.apply e = .ok e' ∧ e'.Fits q place ∧
    ∀ x y, g.locate x = some y → e'.locate x = e.locate y ∧ e'.valueAt x = e.valueAt y

variable {a q : Parameter S} {g : Expr S}

namespace Moves

theorem parameter (hs : s.Leads a q g) : s.Moves q g (.parameter a) (.row a.entity) := by
  refine ⟨g, by simp [apply, hs.find?_eq], hs.fits, fun x y hxy => ⟨hxy, ?_⟩⟩
  rw [hs.fits.valueAt_row, valueAt_parameter]

theorem project {target : Expr S} {p : Projection S} (h : s.Moves q g target (.row p.source)) :
    s.Moves q g (.project target p) (.row p.target) := by
  obtain ⟨target', happly, hfits, hmeans⟩ := h
  refine ⟨.project target' p, by rw [apply, happly]; rfl, .project hfits, fun x y hxy => ⟨?_, ?_⟩⟩
  · rw [locate_project, locate_project, (hmeans x y hxy).1]
  · rw [valueAt_project, valueAt_project]

theorem member {target : Expr S} {m : Member S} (h : s.Moves q g target (.row m.owner)) :
    ∃ target', s.apply (.member target m) = .ok (.member target' m) ∧
      target'.Fits q (.row m.owner) ∧
      ∀ x y, g.locate x = some y → target'.read x m = target.read y m := by
  obtain ⟨target', happly, hfits, hmeans⟩ := h
  refine ⟨target', by rw [apply, happly]; rfl, hfits, fun x y hxy => ?_⟩
  rw [Expr.read, Expr.read, (hmeans x y hxy).1]

theorem compare {op : CompareOp} {l r : Expr S} (hl : s.Moves q g l .value)
    (hr : s.Moves q g r .value) : s.Moves q g (.compare op l r) .condition := by
  obtain ⟨l', hal, hfl, hml⟩ := hl
  obtain ⟨r', har, hfr, hmr⟩ := hr
  refine ⟨.compare op l' r', by rw [apply, hal, har]; rfl, .compare hfl hfr, ?_⟩
  intro x y hxy
  refine ⟨rfl, ?_⟩
  rw [valueAt_compare, valueAt_compare, (hml x y hxy).2, (hmr x y hxy).2]

theorem and {l r : Expr S} (hl : s.Moves q g l .condition) (hr : s.Moves q g r .condition) :
    s.Moves q g (.and l r) .condition := by
  obtain ⟨l', hal, hfl, hml⟩ := hl
  obtain ⟨r', har, hfr, hmr⟩ := hr
  refine ⟨.and l' r', by rw [apply, hal, har]; rfl, .and hfl hfr, ?_⟩
  intro x y hxy
  refine ⟨rfl, ?_⟩
  rw [valueAt_and, valueAt_and, (hml x y hxy).2, (hmr x y hxy).2]

theorem or {l r : Expr S} (hl : s.Moves q g l .condition) (hr : s.Moves q g r .condition) :
    s.Moves q g (.or l r) .condition := by
  obtain ⟨l', hal, hfl, hml⟩ := hl
  obtain ⟨r', har, hfr, hmr⟩ := hr
  refine ⟨.or l' r', by rw [apply, hal, har]; rfl, .or hfl hfr, ?_⟩
  intro x y hxy
  refine ⟨rfl, ?_⟩
  rw [valueAt_or, valueAt_or, (hml x y hxy).2, (hmr x y hxy).2]

theorem not {e : Expr S} (h : s.Moves q g e .condition) : s.Moves q g (.not e) .condition := by
  obtain ⟨e', happly, hfits, hmeans⟩ := h
  refine ⟨.not e', by rw [apply, happly]; rfl, .not hfits, fun x y hxy => ⟨rfl, ?_⟩⟩
  rw [valueAt_not, valueAt_not, (hmeans x y hxy).2]

/-- The arguments of a call are moved one by one, and stay as many. -/
theorem each {es : List (Expr S)} (h : ∀ e ∈ es, s.Moves q g e .value) :
    ∃ es', s.applyEach es = .ok es' ∧ es'.length = es.length ∧ (∀ e ∈ es', e.Fits q .value) ∧
      ∀ x y, g.locate x = some y → firstAt x es' = firstAt y es := by
  induction es with
  | nil =>
    refine ⟨[], by rw [applyEach], rfl, fun e he => absurd he List.not_mem_nil, fun x y _ => ?_⟩
    rw [firstAt_nil, firstAt_nil]
  | cons e rest ih =>
    obtain ⟨he, hrest⟩ := List.forall_mem_cons.mp h
    obtain ⟨e', happly, hfits, hmeans⟩ := he
    obtain ⟨rest', happlyEach, hlength, hfitsEach, -⟩ := ih hrest
    refine ⟨e' :: rest', by rw [applyEach, happly, happlyEach]; rfl, by simp [hlength],
      List.forall_mem_cons.mpr ⟨hfits, hfitsEach⟩, fun x y hxy => ?_⟩
    rw [firstAt_cons, firstAt_cons, (hmeans x y hxy).2]

theorem call {m : Method} {target : Expr S} {args : List (Expr S)} (hn : args.length = m.arity)
    (ht : s.Moves q g target .value) (ha : ∀ e ∈ args, s.Moves q g e .value) :
    s.Moves q g (.call m target args) .condition := by
  obtain ⟨target', happly, hfits, hmeans⟩ := ht
  obtain ⟨args', happlyEach, hlength, hfitsEach, hmeansEach⟩ := each ha
  refine ⟨.call m target' args', by rw [apply, happly, happlyEach]; rfl,
    .call (hlength.trans hn) hfits hfitsEach, fun x y hxy => ⟨rfl, ?_⟩⟩
  rw [valueAt_call, valueAt_call, (hmeans x y hxy).2, hmeansEach x y hxy]

/-- A test of `a` becomes the test of the parameter that takes the place of `a`. -/
theorem test (hs : s.Leads a q g) (hg : g = .parameter q) {t : OpaqueTest S} (ht : t.subject = a) :
    s.Moves q g (.test t) .condition := by
  subst hg ht
  have he : q.entity = t.subject.entity := (Fits.parameter_row_iff.mp hs.fits).2.symm
  refine ⟨.test (t.withSubject q he), by simp [apply, applyTest, hs.find?_eq, he], .test rfl, ?_⟩
  intro x y hxy
  obtain rfl : x = y := Option.some.inj hxy
  refine ⟨rfl, ?_⟩
  rw [valueAt_test, valueAt_test, OpaqueTest.holds_withSubject]

end Moves

/-- What fits a place about `a` is moved, if it has no tests or `g` is only another parameter. -/
theorem moves_of_fits (hs : s.Leads a q g) {e : Expr S} {place : Place S} (h : e.Fits a place)
    (ht : e.tests = [] ∨ g = .parameter q) : s.Moves q g e place := by
  induction h with
  | parameter => exact .parameter hs
  | project _ ih => exact (ih ht).project
  | constant v => exact ⟨.constant v, by rw [apply], .constant v, fun _ _ _ => ⟨rfl, by simp⟩⟩
  | truth b => exact ⟨.constant (.bool b), by rw [apply], .truth b, fun _ _ _ => ⟨rfl, by simp⟩⟩
  | member _ ih =>
    obtain ⟨target', happly, hfits, hmeans⟩ := (ih ht).member
    exact ⟨_, happly, .member hfits, fun x y hxy => ⟨rfl, by simp [hmeans x y hxy]⟩⟩
  | flag _ hm ih =>
    obtain ⟨target', happly, hfits, hmeans⟩ := (ih ht).member
    exact ⟨_, happly, .flag hfits hm, fun x y hxy => ⟨rfl, by simp [hmeans x y hxy]⟩⟩
  | compare _ _ ihl ihr =>
    exact .compare (ihl (ht.imp_left fun h => (List.append_eq_nil_iff.mp h).1))
      (ihr (ht.imp_left fun h => (List.append_eq_nil_iff.mp h).2))
  | call hn _ _ iht iha =>
    refine .call hn (iht (ht.imp_left fun h => (List.append_eq_nil_iff.mp h).1)) fun e he => ?_
    exact iha e he (ht.imp_left fun h => tests_eq_nil_of_testsOf (List.append_eq_nil_iff.mp h).2 he)
  | and _ _ ihl ihr =>
    exact .and (ihl (ht.imp_left fun h => (List.append_eq_nil_iff.mp h).1))
      (ihr (ht.imp_left fun h => (List.append_eq_nil_iff.mp h).2))
  | or _ _ ihl ihr =>
    exact .or (ihl (ht.imp_left fun h => (List.append_eq_nil_iff.mp h).1))
      (ihr (ht.imp_left fun h => (List.append_eq_nil_iff.mp h).2))
  | not _ ih => exact (ih ht).not
  | test hs' =>
    rcases ht with ht | ht
    · cases ht
    · exact .test hs ht hs'
  | asValue _ ih =>
    obtain ⟨e', happly, hfits, hmeans⟩ := ih ht
    exact ⟨e', happly, .asValue hfits, hmeans⟩

/-! ### Renaming -/

variable {b : Parameter S}

/-- Renaming is substitution by a parameter. -/
theorem apply_replace_parameter (h : b.entity = a.entity) (e : Expr S) :
    (({} : Substitution S).replace a (.parameter b)).apply e = .ok (e.rename a b h) := by
  induction e using Expr.induct with
  | parameter p =>
    rw [apply, rename]
    by_cases hp : p = a
    · simp [hp]
    · simp [hp, find?_replace_of_ne]
  | constant v => rw [apply, rename]
  | member target m ih => rw [apply, rename, ih]; rfl
  | project target p ih => rw [apply, rename, ih]; rfl
  | compare op l r ihl ihr => rw [apply, rename, ihl, ihr]; rfl
  | and l r ihl ihr => rw [apply, rename, ihl, ihr]; rfl
  | or l r ihl ihr => rw [apply, rename, ihl, ihr]; rfl
  | not e ih => rw [apply, rename, ih]; rfl
  | call m target args iht iha =>
    have happlyEach : (({} : Substitution S).replace a (.parameter b)).applyEach args =
        .ok (renames a b h args) := by
      clear iht
      induction args with
      | nil => rw [applyEach, renames]
      | cons e rest ih =>
        obtain ⟨he, hrest⟩ := List.forall_mem_cons.mp iha
        rw [applyEach, renames, he, ih hrest]
        rfl
    rw [apply, rename, iht, happlyEach]
    rfl
  | test t =>
    rw [apply, rename, applyTest]
    by_cases hs : t.subject = a
    · have hb : b.entity = t.subject.entity := by rw [h, hs]
      simp [hs, hb]
    · simp [hs, find?_replace_of_ne]

end Substitution

namespace Expr

open Substitution

variable {a b : Parameter S}

theorem moves_rename (h : b.entity = a.entity) {e : Expr S} {place : Place S} (he : e.Fits a place) :
    (e.rename a b h).Fits b place ∧ ∀ x, (e.rename a b h).valueAt x = e.valueAt x := by
  have hs : (({} : Substitution S).replace a (.parameter b)).Leads a b (.parameter b) :=
    ⟨find?_replace_self .., h ▸ .parameter⟩
  obtain ⟨e', happly, hfits, hmeans⟩ := moves_of_fits hs he (.inr rfl)
  obtain rfl : e.rename a b h = e' := by
    rw [apply_replace_parameter h] at happly
    exact Except.ok.inj happly
  exact ⟨hfits, fun x => (hmeans x x rfl).2⟩

/-- An expression fits the same places about another parameter after it is renamed to it. -/
theorem fits_rename (h : b.entity = a.entity) {e : Expr S} {place : Place S} (he : e.Fits a place) :
    (e.rename a b h).Fits b place :=
  (moves_rename h he).1

theorem holdsAt_rename (h : b.entity = a.entity) {e : Expr S} {place : Place S} (he : e.Fits a place)
    (x : S.AnyRow) : (e.rename a b h).holdsAt x = e.holdsAt x := by
  rw [holdsAt, holdsAt, (moves_rename h he).2 x]

end Expr

end EntityQuery

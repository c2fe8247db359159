import EntityQuery.Proofs.Expr.Alike
import EntityQuery.Proofs.Request.Meaning
import EntityQuery.Proofs.Sql.Literals
import Mathlib.Data.List.Forall2

/-!
# Literals of requests and rendered text

Nothing that a client types as a literal is seen in the text that a request is rendered to. Filters that agree
in everything but their literals, and have as many of them, are translated to conditions that are alike
(`FilterSpec.toSpecification_alike`), and so are their conjunctions (`FilterConfig.select_alike`); and what
is alike is written alike (`Sql.render_hides_literals`).
-/

namespace EntityQuery

variable {S : Schema} {t : S.Entity}

/-! ### Operators -/

theorem Value.alike_headD {ls ls' : List Value} (h : List.Forall₂ Value.Alike ls ls') :
    (ls.headD .null).Alike (ls'.headD .null) := by
  cases h with
  | nil => exact .null
  | cons hv _ => exact hv

theorem Value.alike_tail {ls ls' : List Value} (h : List.Forall₂ Value.Alike ls ls') :
    List.Forall₂ Value.Alike ls.tail ls'.tail := by
  cases h with
  | nil => exact .nil
  | cons _ hs => exact hs

namespace Operand

variable {p q : Parameter S} {o o' : Operand S} {v v' : Value}

theorem compare_alike (h : Expr.Alike p q .operand o.expr o'.expr) (op : CompareOp) (hv : v.Alike v') :
    Expr.Alike p q .condition (o.compare op v) (o'.compare op v') :=
  .compare op h (.constant hv)

theorem call_alike (h : Expr.Alike p q .operand o.expr o'.expr) (m : Method) (hv : v.Alike v') :
    Expr.Alike p q .condition (o.call m [.constant v]) (o'.call m [.constant v']) := by
  refine .call m h rfl fun r hr => ?_
  rw [List.mem_singleton.mp hr]
  exact .constant hv

theorem eq_alike (h : Expr.Alike p q .operand o.expr o'.expr) (htype : o.type = o'.type) (hmode : o.mode = o'.mode)
    (hv : v.Alike v') : Expr.Alike p q .condition (o.eq v) (o'.eq v') := by
  rw [eq, eq, htype, hmode]
  split
  · exact call_alike h _ hv
  · exact compare_alike h _ hv

end Operand

/-- Operators ask the same of the same operands, but for the literals. -/
theorem FilterOperator.condition_alike {op : FilterOperator} {p q : Parameter S} {o o' : Operand S}
    {ls ls' : List Value} (h : Expr.Alike p q .operand o.expr o'.expr) (htype : o.type = o'.type)
    (hmode : o.mode = o'.mode) (hls : op ≠ .notEmpty → List.Forall₂ Value.Alike ls ls') :
    Expr.Alike p q .condition (op.condition o ls) (op.condition o' ls') := by
  have hlist : List.Forall₂ Value.Alike ls ls' → (Value.list ls).Alike (.list ls') := fun h => .list h.length_eq
  cases op with
  | equals => exact Operand.eq_alike h htype hmode (Value.alike_headD (hls (by decide)))
  | notEqual => exact (Operand.eq_alike h htype hmode (Value.alike_headD (hls (by decide)))).negate
  | contains | startsWith | endsWith =>
    simp only [condition, Operand.contains, Operand.startsWith, Operand.endsWith, hmode]
    exact Operand.call_alike h _ (.string _ _)
  | notEmpty => exact Expr.Alike.negate (.call _ h rfl fun _ hr => absurd hr List.not_mem_nil)
  | lessThan => exact Operand.compare_alike h _ (Value.alike_headD (hls (by decide)))
  | greaterThan => exact Operand.compare_alike h _ (Value.alike_headD (hls (by decide)))
  | between =>
    exact .and (Operand.compare_alike h _ (Value.alike_headD (hls (by decide))))
      (Operand.compare_alike h _ (Value.alike_headD (Value.alike_tail (hls (by decide)))))
  | includeAny | includeEquals => exact Operand.call_alike h _ (hlist (hls (by decide)))
  | includeNone => exact (Operand.call_alike h _ (hlist (hls (by decide)))).negate

/-! ### Specifications -/

/-- Two specifications are alike, and the first is about its own parameter. Then so is the second. -/
structure Specification.Alike (a b : Specification S t) : Prop where
  fits : a.tree.body.Fits a.tree.parameter .condition
  body : Expr.Alike a.tree.parameter b.tree.parameter .condition a.tree.body b.tree.body

namespace Specification

variable {a a' b b' : Specification S t}

theorem Alike.renamed (h : b.Alike b') : Expr.Alike a.tree.parameter a'.tree.parameter .condition
    (a.renamed b) (a'.renamed b') :=
  h.body.rename _ _ fun _ hp => h.fits.eq_of_mem_parameters hp

theorem Alike.and (ha : a.Alike a') (hb : b.Alike b') (s s' : Supply) :
    (a.and b s).1.Alike (a'.and b' s').1 where
  fits := .and ha.fits (Expr.fits_rename _ hb.fits)
  body := .and ha.body hb.renamed

theorem foldlM_and_alike {bs bs' : List (Specification S t)} (h : List.Forall₂ Alike bs bs') (ha : a.Alike a')
    (s s' : Supply) :
    (bs.foldlM Specification.and a s).1.Alike (bs'.foldlM Specification.and a' s').1 := by
  induction h generalizing a a' s s' with
  | nil => exact ha
  | cons hb _ ih => exact ih (ha.and hb s s') _ _

theorem all_alike {bs bs' : List (Specification S t)} (h : List.Forall₂ Alike bs bs') (s s' : Supply) :
    (all t bs s).1.Alike (all t bs' s').1 := by
  cases h with
  | nil => exact ⟨.truth true, .truth (.bool true)⟩
  | cons ha hs => exact foldlM_and_alike hs ha s s'

end Specification

/-! ### Filters -/

namespace FilterSpec

/-- Two filters agree in everything but their literals, of which they have as many. -/
structure Alike (f g : FilterSpec) : Prop where
  propertyName : f.propertyName = g.propertyName
  declaredType : f.declaredType = g.declaredType
  operator : f.operator = g.operator
  length_literals : f.literals.length = g.literals.length

theorem alike_of_map_read {f : Family} {raws raws' : List String} {vs vs' : List Value}
    (h : raws.map f.read? = vs.map some) (h' : raws'.map f.read? = vs'.map some)
    (hlength : raws.length = raws'.length) : List.Forall₂ Value.Alike vs vs' := by
  induction raws generalizing raws' vs vs' with
  | nil =>
    obtain rfl := List.length_eq_zero_iff.mp hlength.symm
    obtain rfl := List.map_eq_nil_iff.mp h.symm
    obtain rfl := List.map_eq_nil_iff.mp h'.symm
    exact .nil
  | cons raw raws ih =>
    cases raws' with
    | nil => cases hlength
    | cons raw' raws' =>
      cases vs with
      | nil => cases h
      | cons v vs =>
        cases vs' with
        | nil => cases h'
        | cons v' vs' =>
          obtain ⟨hv, hvs⟩ := List.cons.inj h
          obtain ⟨hv', hvs'⟩ := List.cons.inj h'
          exact .cons (Value.alike_of_read hv hv') (ih hvs hvs' (Nat.succ.inj hlength))

/-- Filters that are alike are translated to specifications that are alike. -/
theorem toSpecification_alike {f g : FilterSpec} (h : f.Alike g) {mode : CaseMode} {s s' : Supply}
    {a b : Specification S t} (ha : (f.toSpecification mode t s).1 = .ok a)
    (hb : (g.toSpecification mode t s').1 = .ok b) : a.Alike b := by
  obtain ⟨_, _, _, -, -, hmeans, -⟩ := toSpecification_means ha
  obtain ⟨p, ls, hcheck, hbody⟩ := toSpecification_eq_ok ha
  obtain ⟨p', ls', hcheck', hbody'⟩ := toSpecification_eq_ok hb
  obtain ⟨hfind, -, hread⟩ := check_eq_ok hcheck
  obtain ⟨hfind', -, hread'⟩ := check_eq_ok hcheck'
  rw [← h.propertyName] at hfind'
  obtain rfl : p = p' := Option.some.inj (hfind.symm.trans hfind')
  refine ⟨hmeans.fits, ?_⟩
  rw [hbody, hbody', ← h.operator]
  refine FilterOperator.condition_alike (.member _ (.parameter (by simp))) rfl rfl fun hop => ?_
  exact alike_of_map_read (hread hop) (hread' (h.operator ▸ hop)) h.length_literals

theorem toSpecifications_cons_eq_ok {spec : FilterSpec} {rest : List FilterSpec} {mode : CaseMode} {s : Supply}
    {as : List (Specification S t)} (h : (toSpecifications mode t (spec :: rest) s).1 = .ok as) :
    ∃ a as' s', (spec.toSpecification mode t s).1 = .ok a ∧ (toSpecifications mode t rest s').1 = .ok as' ∧
      as = a :: as' := by
  rw [toSpecifications, Fresh.bind_apply] at h
  cases ha : (spec.toSpecification mode t s).1 with
  | error e =>
    rw [ha] at h
    cases h
  | ok a =>
    rw [ha] at h
    obtain ⟨as', has', rfl⟩ := map_eq_ok_iff.mp h
    exact ⟨a, as', _, rfl, has', rfl⟩

theorem toSpecifications_alike {fs gs : List FilterSpec} (h : List.Forall₂ Alike fs gs) {mode : CaseMode}
    {s s' : Supply} {as bs : List (Specification S t)} (ha : (toSpecifications mode t fs s).1 = .ok as)
    (hb : (toSpecifications mode t gs s').1 = .ok bs) : List.Forall₂ Specification.Alike as bs := by
  induction h generalizing s s' as bs with
  | nil =>
    cases ha
    cases hb
    exact .nil
  | cons hspec _ ih =>
    obtain ⟨a, as', u, hfirst, hrest, rfl⟩ := toSpecifications_cons_eq_ok ha
    obtain ⟨b, bs', u', hfirst', hrest', rfl⟩ := toSpecifications_cons_eq_ok hb
    exact .cons (toSpecification_alike hspec hfirst hfirst') (ih hrest hrest')

end FilterSpec

namespace FilterConfig

theorem select_eq_ok {c : FilterConfig} {fs : List FilterSpec} {s : Supply} {a : Specification S t}
    (h : (c.select t fs s).1 = .ok a) :
    ∃ as s', (FilterSpec.toSpecifications c.stringComparison t fs s).1 = .ok as ∧
      a = (Specification.all t as s').1 := by
  rw [select] at h
  split at h
  · cases h
  · rw [Fresh.bind_apply] at h
    cases has : (FilterSpec.toSpecifications c.stringComparison t fs s).1 with
    | error e =>
      rw [has] at h
      cases h
    | ok as =>
      rw [has] at h
      exact ⟨as, _, rfl, (Except.ok.inj h).symm⟩

/-- The selections of filters that are alike are alike, whatever the limits of the two configurations. -/
theorem select_alike {c c' : FilterConfig} (hc : c.stringComparison = c'.stringComparison)
    {fs gs : List FilterSpec} (h : List.Forall₂ FilterSpec.Alike fs gs) {s s' : Supply}
    {a b : Specification S t} (ha : (c.select t fs s).1 = .ok a) (hb : (c'.select t gs s').1 = .ok b) :
    a.Alike b := by
  obtain ⟨as, u, has, rfl⟩ := select_eq_ok ha
  obtain ⟨bs, u', hbs, rfl⟩ := select_eq_ok hb
  rw [hc] at has
  exact Specification.all_alike (FilterSpec.toSpecifications_alike h has hbs) u u'

end FilterConfig

/-! ### Rendered text -/

/-- Two trees that differ in the constants among their operands, of the same kinds, have the same text with as
many parameters, or fail with the same code. So the text for a translated request depends on the names of
properties, the families, the operators, how texts are compared and how many literals there are, and not on the
literals. -/
theorem Sql.render_hides_literals (d : Dialect) :
    (∀ tree tree' : Tree S t,
      Expr.Alike tree.parameter tree'.parameter .condition tree.body tree'.body →
        visible (render d tree) = visible (render d tree')) ∧
    ∀ (c c' : FilterConfig) (fs gs : List FilterSpec) (s s' : Supply) (a b : Specification S t),
      c.stringComparison = c'.stringComparison → List.Forall₂ FilterSpec.Alike fs gs →
        (c.select t fs s).1 = .ok a → (c'.select t gs s').1 = .ok b →
          visible (render d a.tree) = visible (render d b.tree) :=
  ⟨fun _ _ h => visible_render h d,
    fun _ _ _ _ _ _ _ _ hc h ha hb => visible_render (FilterConfig.select_alike hc h ha hb).body d⟩

namespace People

/-- The age of a person is at least sixty-five. -/
def senior : Specification schema person :=
  .ofTree ⟨8, ⟨3, "z", person⟩,
    .compare .gte (.member (.parameter ⟨3, "z", person⟩) age) (.constant (.int 65)), rfl⟩

/-- A filter that looks for a part of the name. -/
def named (part : String) : FilterSpec := ⟨"Name", .string, .contains, some part, []⟩

end People

/-- Adults and seniors are told apart by a parameter, and so are a harmless part of a name and one that tries to
be SQL. -/
theorem Sql.render_hides_literals_name :
    visible (render .postgres People.adult.tree) = visible (render .postgres People.senior.tree) ∧
      ∃ a b, (FilterConfig.select {} People.person [People.named "Ada"] {}).1 = .ok a ∧
        (FilterConfig.select {} People.person [People.named "%' OR TRUE"] {}).1 = .ok b ∧
          visible (render .postgres a.tree) = visible (render .postgres b.tree) := by
  obtain ⟨htrees, hrequests⟩ := render_hides_literals (S := People.schema) (t := People.person) .postgres
  have hparameter : People.x = People.adult.tree.parameter ↔
      ⟨3, "z", People.person⟩ = People.senior.tree.parameter := by
    simp [People.adult, People.senior, Specification.ofTree]
  refine ⟨htrees _ _ (.compare _ (.member _ (.parameter hparameter)) (.constant (.int _ _))), ?_⟩
  obtain ⟨a, ha⟩ : ∃ a, (FilterConfig.select {} People.person [People.named "Ada"] {}).1 = .ok a :=
    ⟨_, rfl⟩
  obtain ⟨b, hb⟩ : ∃ b, (FilterConfig.select {} People.person [People.named "%' OR TRUE"] {}).1 = .ok b :=
    ⟨_, rfl⟩
  have halike : List.Forall₂ FilterSpec.Alike [People.named "Ada"] [People.named "%' OR TRUE"] :=
    .cons ⟨rfl, rfl, rfl, rfl⟩ .nil
  exact ⟨a, b, ha, hb, hrequests {} {} _ _ {} {} a b rfl halike ha hb⟩

end EntityQuery

import EntityQuery.Proofs.Request.Meaning
import EntityQuery.Proofs.Sql.Rendering

/-!
# What has a rendering

Some well-formed conditions have no rendering: tests by a function, set operations on collections, lists as
single values, and operands that are neither constants nor properties. Which ones is told by the syntax alone
(`Expr.hasSql`).

The renderer looks at the places of parts as the compiler does, and refuses none that the compiler accepts. So
every step on a well-formed expression either succeeds or meets a construct without a rendering
(`SupportedIff`), and a tree that compiles is rendered in every dialect or refused in every dialect with the
same error (`Sql.render_cases`). Of the conditions of filters, those of collections and of set equality have no
rendering (`FilterOperator.hasSql_condition`).
-/

namespace EntityQuery

/-! ### Steps -/

/-- The step succeeds if `c` holds. If not, it fails because of a construct that is not supported. -/
def SupportedIff {α : Type} (c : Bool) (r : Result α) : Prop :=
  match r with
  | .ok _ => c = true
  | .error e => c = false ∧ e.code = .unsupportedNodeKind

namespace SupportedIff

variable {α β : Type} {c d : Bool} {r : Result α}

theorem ok (a : α) : SupportedIff true (.ok a : Result α) := rfl

theorem error {e : QueryError} (h : e.code = .unsupportedNodeKind) :
    SupportedIff false (.error e : Result α) :=
  ⟨rfl, h⟩

theorem bind {f : α → Result β} (h : SupportedIff c r) (hf : ∀ a, SupportedIff d (f a)) :
    SupportedIff (c && d) (r >>= f) := by
  cases r with
  | error e =>
    obtain ⟨rfl, he⟩ := h
    exact error he
  | ok a =>
    obtain rfl : c = true := h
    exact hf a

/-- Two steps, the outcomes of which are put together. -/
theorem both {γ : Type} {r' : Result β} (h : SupportedIff c r) (h' : SupportedIff d r') (f : α → β → γ) :
    SupportedIff (c && d) (r >>= fun a => r' >>= fun b => .ok (f a b)) := by
  rw [← Bool.and_true d]
  exact h.bind fun _ => h'.bind fun _ => .ok _

theorem map (h : SupportedIff c r) (f : α → β) : SupportedIff c (f <$> r) := by
  cases r with
  | error e => exact h
  | ok a => exact h

/-- An error keeps its code. -/
theorem mapError (h : SupportedIff c r) {f : QueryError → QueryError} (hf : ∀ e, (f e).code = e.code) :
    SupportedIff c (r.mapError f) := by
  cases r with
  | error e => exact ⟨h.1, (hf e).trans h.2⟩
  | ok a => exact h

/-- What is supported succeeds, and what is not is refused as not supported. -/
theorem cases (h : SupportedIff c r) :
    (c = true ∧ ∃ a, r = .ok a) ∨ (c = false ∧ ∃ e, r = .error e ∧ e.code = .unsupportedNodeKind) := by
  cases r with
  | error e => exact .inr ⟨h.1, e, rfl, h.2⟩
  | ok a => exact .inl ⟨h, a, rfl⟩

theorem isOk_iff (h : SupportedIff c r) : (∃ a, r = .ok a) ↔ c = true := by
  rcases h.cases with ⟨rfl, hr⟩ | ⟨rfl, e, rfl, -⟩
  · exact iff_of_true hr rfl
  · exact iff_of_false (fun ⟨_, ha⟩ => nomatch ha) Bool.false_ne_true

end SupportedIff

variable {S : Schema}

/-! ### Constructs -/

namespace Expr

/-- Whether the expression is a single property. -/
def isColumn : Expr S → Bool
  | .member _ m => !m.type.isCollection
  | _ => false

/-- Whether the expression is a single value or a single property. -/
def isScalar : Expr S → Bool
  | .constant (.list _) => false
  | .constant _ => true
  | e => e.isColumn

/-- Whether an expression is a constant text. -/
def isText : Expr S → Bool
  | .constant (.string _) => true
  | _ => false

/-- Whether an expression is a constant. -/
def isConstant : Expr S → Bool
  | .constant _ => true
  | _ => false

end Expr

/-- Whether a call of the method has a rendering with this argument. -/
def Method.rendersWith (m : Method) (arg : Expr S) : Bool :=
  match m with
  | contains _ | startsWith _ | endsWith _ | textEquals _ => arg.isText
  | overlaps => arg.isConstant
  | isDefault | setEquals => false

namespace Expr

/-- Whether a condition, which is taken to be well formed, has a rendering. -/
def hasSql : Expr S → Bool
  | .constant _ | .member .. => true
  | .compare _ l r => l.isScalar && r.isScalar
  | .call m target args => target.isColumn && args.all m.rendersWith
  | .and l r | .or l r => l.hasSql && r.hasSql
  | .not e => e.hasSql
  | .parameter _ | .project .. | .test _ => false

theorem hasSql_negate (e : Expr S) : e.negate.hasSql = e.hasSql := by
  cases e with
  | not e => rfl
  | parameter | constant | member | project | compare | call | and | or | test => rfl

end Expr

/-! ### The walk -/

namespace Sql

variable {bound : Parameter S} {e : Expr S}

theorem exists_path {t : S.Entity} (h : e.Fits bound (.row t)) : ∃ names, path bound e = .ok names := by
  induction e using Expr.induct generalizing t with
  | parameter p =>
    obtain ⟨rfl, -⟩ := Expr.Fits.parameter_row_iff.mp h
    exact ⟨[], if_pos rfl⟩
  | project target p ih =>
    obtain ⟨names, hnames⟩ := ih (Expr.Fits.project_row_iff.mp h).1
    refine ⟨names ++ [p.label], ?_⟩
    rw [path, hnames]
    rfl
  | constant | member | compare | call | and | or | not | test => cases h

/-- A property of a row of its owner has a column. -/
theorem exists_column {target : Expr S} {m : Member S} (h : target.Fits bound (.row m.owner)) :
    ∃ c, column bound target m = .ok c := by
  obtain ⟨names, hnames⟩ := exists_path h
  refine ⟨⟨names, m.name⟩, ?_⟩
  rw [column, hnames]
  rfl

theorem supported_scalarColumn (h : e.Fits bound .value) : SupportedIff e.isColumn (scalarColumn bound e) := by
  cases e with
  | member target m =>
    obtain ⟨c, hc⟩ := exists_column (Expr.Fits.member_value_iff.mp h)
    simp only [scalarColumn, Expr.isColumn, hc]
    split
    · rename_i hm
      rw [hm]
      exact .error rfl
    · rename_i hm
      rw [Bool.eq_false_iff.mpr hm]
      exact .ok c
  | parameter => exact absurd h Expr.Fits.not_parameter_value
  | project => exact absurd h Expr.Fits.not_project_value
  | constant | compare | call | and | or | not | test => exact .error rfl

theorem supported_scalar (h : e.Fits bound .value) : SupportedIff e.isScalar (scalar bound e) := by
  have hcolumn := (supported_scalarColumn h).map Scalar.column
  cases e with
  | constant v =>
    cases v with
    | list => exact .error rfl
    | null | bool | int | decimal | string | dateTime | uuid => exact .ok _
  | parameter | member | project | compare | call | and | or | not | test => exact hcolumn

theorem supported_textColumn (h : e.Fits bound .value) (mode : CaseMode) :
    SupportedIff e.isColumn (textColumn bound mode e) := by
  rw [← Bool.and_true e.isColumn]
  refine (supported_scalarColumn h).bind fun c => ?_
  cases mode with
  | ordinal => exact .ok _
  | ignoreCase => exact .ok _

theorem supported_scalarFamily (m : Method) (e : Expr S) : SupportedIff e.isColumn (scalarFamily m e) := by
  cases e with
  | member target p =>
    simp only [scalarFamily, Expr.isColumn]
    split
    · rename_i hp
      rw [hp]
      exact .error rfl
    · rename_i hp
      rw [Bool.eq_false_iff.mpr hp]
      exact .ok _
  | parameter | constant | project | compare | call | and | or | not | test => exact .error rfl

theorem supported_textLiteral (m : Method) (e : Expr S) : SupportedIff e.isText (textLiteral m e) := by
  cases e with
  | constant v =>
    cases v with
    | string s => exact .ok s
    | null | bool | int | decimal | dateTime | uuid | list => exact .error rfl
  | parameter | member | project | compare | call | and | or | not | test => exact .error rfl

/-! ### Calls -/

variable {target arg : Expr S}

theorem supported_renderLike (h : target.Fits bound .value) (m : Method) (mode : CaseMode)
    (leading trailing : Bool) :
    SupportedIff (target.isColumn && arg.isText) (renderLike bound m mode leading trailing target arg) := by
  rw [Bool.and_comm]
  exact (supported_textLiteral m arg).both (supported_textColumn h mode) _

theorem supported_textEquals (h : target.Fits bound .value) (mode : CaseMode) :
    SupportedIff (target.isColumn && arg.isText) (renderCall bound (.textEquals mode) target [arg]) := by
  rw [Bool.and_comm]
  exact (supported_textLiteral _ arg).both (supported_textColumn h mode) _

theorem supported_isDefault (h : target.Fits bound .value) :
    SupportedIff target.isColumn (renderCall bound .isDefault target []) := by
  rw [← Bool.and_self target.isColumn]
  exact (supported_scalarFamily _ target).both (supported_scalarColumn h) _

/-- A property that has a family has a column, so that an overlap with something does not fail any more. -/
theorem supported_overlaps (h : target.Fits bound .value) :
    SupportedIff (target.isColumn && arg.isConstant) (renderCall bound .overlaps target [arg]) := by
  rcases (supported_scalarFamily .overlaps target).cases with ⟨hcolumn, f, hf⟩ | ⟨hcolumn, e, he, hcode⟩
  · have hscalar : target.isScalar = true := by
      cases target with
      | member => exact hcolumn
      | parameter | constant | project | compare | call | and | or | not | test => cases hcolumn
    obtain ⟨s, hs⟩ := (supported_scalar h).isOk_iff.mpr hscalar
    simp only [renderCall, hf, hcolumn, Bool.true_and]
    cases arg with
    | constant v =>
      show SupportedIff true (if v.members.isEmpty then _ else _)
      split
      · exact .ok _
      · rw [hs]
        exact .ok _
    | parameter | member | project | compare | call | and | or | not | test => exact .error rfl
  · simp only [renderCall, he, hcolumn, Bool.false_and]
    exact .error hcode

theorem supported_renderCall {m : Method} {args : List (Expr S)} (h : target.Fits bound .value)
    (hn : args.length = m.arity) :
    SupportedIff (target.isColumn && args.all m.rendersWith) (renderCall bound m target args) := by
  cases m with
  | isDefault =>
    obtain rfl := List.length_eq_zero_iff.mp hn
    rw [List.all_nil, Bool.and_true]
    exact supported_isDefault h
  | contains | startsWith | endsWith =>
    obtain ⟨arg, rfl⟩ := List.length_eq_one_iff.mp hn
    rw [List.all_cons, List.all_nil, Bool.and_true]
    exact supported_renderLike h _ _ _ _
  | textEquals mode =>
    obtain ⟨arg, rfl⟩ := List.length_eq_one_iff.mp hn
    rw [List.all_cons, List.all_nil, Bool.and_true]
    exact supported_textEquals h mode
  | overlaps =>
    obtain ⟨arg, rfl⟩ := List.length_eq_one_iff.mp hn
    rw [List.all_cons, List.all_nil, Bool.and_true]
    exact supported_overlaps h
  | setEquals =>
    obtain ⟨arg, rfl⟩ := List.length_eq_one_iff.mp hn
    rw [List.all_cons, List.all_nil, Bool.and_true, show Method.rendersWith .setEquals arg = false from rfl,
      Bool.and_false]
    exact .error rfl

/-! ### Conditions -/

theorem supported_renderCompare {op : CompareOp} {l r : Expr S} (hl : l.Fits bound .value)
    (hr : r.Fits bound .value) : SupportedIff (l.isScalar && r.isScalar) (renderCompare bound op l r) := by
  rw [← Bool.and_true r.isScalar]
  refine (supported_scalar hl).bind fun a => (supported_scalar hr).bind fun b => ?_
  cases op with
  | eq | ne | lt | lte | gt | gte => exact .ok _

/-- A well-formed condition is rendered exactly if the syntax says so. -/
theorem supported_renderCondition (h : e.Fits bound .condition) :
    SupportedIff e.hasSql (renderCondition bound e) := by
  induction e using Expr.induct with
  | parameter | project => cases h
  | constant v =>
    obtain ⟨b, rfl⟩ := Expr.Fits.constant_condition_iff.mp h
    exact .ok _
  | member target m =>
    obtain ⟨htarget, hm⟩ := Expr.Fits.member_condition_iff.mp h
    obtain ⟨c, hc⟩ := exists_column htarget
    simp only [renderCondition, if_pos hm, hc]
    exact .ok _
  | compare op l r =>
    obtain ⟨hl, hr⟩ := Expr.Fits.compare_condition_iff.mp h
    exact supported_renderCompare hl hr
  | call m target args =>
    obtain ⟨hn, ht, -⟩ := Expr.Fits.call_condition_iff.mp h
    exact supported_renderCall ht hn
  | and l r ihl ihr =>
    obtain ⟨hl, hr⟩ := Expr.Fits.and_condition_iff.mp h
    exact (ihl hl).both (ihr hr) _
  | or l r ihl ihr =>
    obtain ⟨hl, hr⟩ := Expr.Fits.or_condition_iff.mp h
    exact (ihl hl).both (ihr hr) _
  | not e ih =>
    rw [Expr.hasSql, ← Bool.and_true e.hasSql]
    exact (ih (Expr.Fits.not_condition_iff.mp h)).bind fun _ => .ok _
  | test => exact .error rfl

/-! ### Trees -/

variable {t : S.Entity} {tree : Tree S t}

/-- A tree that compiles is rendered in every dialect, or it is refused in every dialect with one error, which
says that a construct is not supported. -/
theorem render_cases (h : tree.body.Fits tree.parameter .condition) :
    (tree.body.hasSql = true ∧ ∀ d, ∃ q, render d tree = .ok q) ∨
      (tree.body.hasSql = false ∧ ∃ e, e.code = .unsupportedNodeKind ∧ ∀ d, render d tree = .error e) := by
  have hsupported : SupportedIff tree.body.hasSql (conditionOf tree) :=
    (supported_renderCondition h).mapError fun _ => rfl
  rcases hsupported.cases with ⟨hsql, c, hc⟩ | ⟨hsql, e, he, hcode⟩
  · refine .inl ⟨hsql, fun d => ⟨.ofTokens d 0 c.tokens, ?_⟩⟩
    rw [render, hc]
    rfl
  · refine .inr ⟨hsql, e, hcode, fun d => ?_⟩
    rw [render, he]
    rfl

theorem render_isOk_iff (h : tree.body.Fits tree.parameter .condition) (d : Dialect) :
    (∃ q, render d tree = .ok q) ↔ tree.body.hasSql = true := by
  rcases render_cases h with ⟨hsql, hq⟩ | ⟨hsql, e, -, he⟩
  · exact iff_of_true (hq d) hsql
  · rw [he, hsql]
    exact iff_of_false (fun ⟨_, hq⟩ => nomatch hq) Bool.false_ne_true

end Sql

/-! ### Filters -/

/-- What a literal of a request denotes is never a list. -/
theorem Family.isScalar_of_read? {f : Family} {raw : String} {v : Value} (h : f.read? raw = some v) :
    (Expr.constant v : Expr S).isScalar = true := by
  cases f with
  | string =>
    obtain rfl := Option.some.inj h
    rfl
  | integer | decimal | boolean | dateTime | uuid =>
    obtain ⟨_, _, rfl⟩ := Option.map_eq_some_iff.mp h
    rfl

namespace Operand

variable {o : Operand S} {target : Expr S} {m : Member S} {v : Value}

theorem hasSql_compare (ho : o.expr = .member target m) (op : CompareOp)
    (hv : (Expr.constant v : Expr S).isScalar = true) : (o.compare op v).hasSql = o.expr.isColumn := by
  rw [compare, Expr.hasSql, hv, Bool.and_true, ho]
  rfl

theorem hasSql_call (method : Method) (arg : Expr S) :
    (o.call method [arg]).hasSql = (o.expr.isColumn && method.rendersWith arg) := by
  rw [call, Expr.hasSql, List.all_cons, List.all_nil, Bool.and_true]

/-- Texts are compared with texts, so that an equality without regard to case is one of two texts. -/
theorem hasSql_eq (ho : o.expr = .member target m) (hv : (Expr.constant v : Expr S).isScalar = true)
    (htext : o.type.family = .string → ∃ s, v = .string s) : (o.eq v).hasSql = o.expr.isColumn := by
  rw [eq]
  split
  · rename_i h
    obtain ⟨s, rfl⟩ := htext (Family.isTextual_iff.mp h.2)
    rw [hasSql_call]
    exact Bool.and_true _
  · exact hasSql_compare ho .eq hv

end Operand

/-- The condition of an operator on a property has a rendering, unless the property is a collection or the
operator compares sets of members. -/
theorem FilterOperator.hasSql_condition {op : FilterOperator} {o : Operand S} {target : Expr S} {m : Member S}
    {ls : List Value} (ho : o.expr = .member target m) (h : op.Accepts o.type ls)
    (hls : op ≠ .notEmpty → ∀ l ∈ ls, (Expr.constant l : Expr S).isScalar = true) :
    (op.condition o ls).hasSql = (o.expr.isColumn && op != .includeEquals) := by
  cases op with
  | equals =>
    obtain ⟨l, rfl⟩ := h.single rfl
    have hl : l ∈ [l] := List.mem_singleton_self l
    exact (Operand.hasSql_eq ho (hls (by decide) l hl) fun ht => h.texts ht l hl).trans (Bool.and_true _).symm
  | notEqual =>
    obtain ⟨l, rfl⟩ := h.single rfl
    have hl : l ∈ [l] := List.mem_singleton_self l
    have heq : (o.eq l).hasSql = o.expr.isColumn :=
      Operand.hasSql_eq ho (hls (by decide) l hl) fun ht => h.texts ht l hl
    rw [condition, Operand.ne, Expr.hasSql_negate]
    exact heq.trans (Bool.and_true _).symm
  | lessThan | greaterThan =>
    obtain ⟨l, rfl⟩ := h.single rfl
    have hl : (Expr.constant l : Expr S).isScalar = true := hls (by decide) l (List.mem_singleton_self l)
    exact (Operand.hasSql_compare ho _ hl).trans (Bool.and_true _).symm
  | between =>
    obtain ⟨low, high, rfl⟩ := h.pair rfl
    have hlow : (o.compare .gte low).hasSql = o.expr.isColumn :=
      Operand.hasSql_compare ho _ (hls (by decide) low (by simp))
    have hhigh : (o.compare .lte high).hasSql = o.expr.isColumn :=
      Operand.hasSql_compare ho _ (hls (by decide) high (by simp))
    show ((o.compare .gte low).hasSql && (o.compare .lte high).hasSql) = _
    rw [hlow, hhigh, Bool.and_self]
    exact (Bool.and_true _).symm
  | notEmpty =>
    rw [condition, Operand.notEmpty, Expr.hasSql_negate]
    rfl
  | contains | startsWith | endsWith | includeAny | includeEquals => exact Operand.hasSql_call _ _
  | includeNone => exact (Expr.hasSql_negate _).trans (Operand.hasSql_call _ _)

/-- The condition that a filter is translated to has a rendering, unless the property is a collection or the
operator compares sets of members. The case of texts and the number of literals do not matter. -/
theorem FilterSpec.hasSql_of_toSpecification {t : S.Entity} {spec : FilterSpec} {mode : CaseMode} {s : Supply}
    {a : Specification S t} (h : (spec.toSpecification mode t s).1 = .ok a) :
    ∃ p, (S.metadata t).find? spec.propertyName = some p ∧ a.tree.body.Fits a.tree.parameter .condition ∧
      (a.tree.body.hasSql = true ↔ p.type.isCollection = false ∧ spec.operator ≠ .includeEquals) := by
  obtain ⟨p, ls, hcheck, hbody⟩ := toSpecification_eq_ok h
  obtain ⟨hfind, haccepts, hread⟩ := check_eq_ok hcheck
  have hoperand : (operand p mode a.tree.parameter).expr.Fits a.tree.parameter .value :=
    .member (Expr.Fits.parameter_row_iff.mpr ⟨rfl, a.tree.entity_eq.symm⟩)
  have hscalars : spec.operator ≠ .notEmpty → ∀ l ∈ ls, (Expr.constant l : Expr S).isScalar = true := by
    intro hop l hl
    obtain ⟨raw, -, hraw⟩ := exists_read_of_mem (hread hop) hl
    exact Family.isScalar_of_read? hraw
  have hsql : a.tree.body.hasSql = (!p.type.isCollection && spec.operator != .includeEquals) := by
    rw [hbody]
    exact FilterOperator.hasSql_condition rfl haccepts hscalars
  refine ⟨p, hfind, ?_, ?_⟩
  · rw [hbody]
    exact FilterOperator.condition_fits hoperand
  · rw [hsql, Bool.and_eq_true, Bool.not_eq_true', bne_iff_ne]

/-! ### Trees and filters -/

namespace Sql

/-- A tree that compiles is rendered in every dialect, or it is refused in every dialect because the same
construct is not supported. The specification of a filter is rendered exactly if the property is no collection
and the operator does not compare sets of members. -/
theorem render_refuses_unsupported (t : S.Entity) :
    (∀ (tree : Tree S t) (f : ConditionCode S), tree.compile = .ok f →
      (tree.body.hasSql = true ∧ ∀ d, ∃ q, render d tree = .ok q) ∨
        (tree.body.hasSql = false ∧ ∃ e, e.code = .unsupportedNodeKind ∧ ∀ d, render d tree = .error e)) ∧
    ∀ (spec : FilterSpec) (mode : CaseMode) (s : Supply) (a : Specification S t),
      (spec.toSpecification mode t s).1 = .ok a →
        ∃ p, (S.metadata t).find? spec.propertyName = some p ∧
          ∀ d, (∃ q, render d a.tree = .ok q) ↔
            p.type.isCollection = false ∧ spec.operator ≠ .includeEquals := by
  refine ⟨fun tree f h => render_cases (Tree.compile_eq_ok_iff_fits.mp h).1, fun spec mode s a h => ?_⟩
  obtain ⟨p, hfind, hfits, hsql⟩ := FilterSpec.hasSql_of_toSpecification h
  exact ⟨p, hfind, fun d => (render_isOk_iff hfits d).trans hsql⟩

/-- A test by a function is refused, and the comparison of an age with no literal at all is rendered. -/
theorem render_refuses_unsupported_people :
    (∃ f, People.insider.compile = .ok f) ∧
      (∃ e, e.code = .unsupportedNodeKind ∧ ∀ d, render d People.insider = .error e) ∧
      ∃ a, ((FilterSpec.mk "Age" .integer .includeNone none []).toSpecification .ignoreCase
          People.person {}).1 = .ok a ∧ ∀ d, ∃ q, render d a.tree = .ok q := by
  obtain ⟨htrees, hfilters⟩ := render_refuses_unsupported (S := People.schema) People.person
  obtain ⟨f, hf⟩ : ∃ f, People.insider.compile = .ok f := ⟨_, rfl⟩
  obtain ⟨a, ha⟩ : ∃ a, ((FilterSpec.mk "Age" .integer .includeNone none []).toSpecification .ignoreCase
      People.person {}).1 = .ok a := ⟨_, rfl⟩
  refine ⟨⟨f, hf⟩, ?_, a, ha, fun d => ?_⟩
  · rcases htrees _ f hf with ⟨hsql, -⟩ | ⟨-, he⟩
    · cases hsql
    · exact he
  · obtain ⟨p, hp, hrender⟩ := hfilters _ _ _ a ha
    obtain rfl : People.ageProperty = p := Option.some.inj hp
    exact (hrender d).mpr ⟨rfl, nofun⟩

end Sql

end EntityQuery

import EntityQuery.Proofs.People
import EntityQuery.Proofs.Predicate.Lifting
import EntityQuery.Proofs.Sql.Qualification
import EntityQuery.Proofs.Sql.Support

/-!
# Rendering lifted specifications

What has a rendering has no opaque tests (`Expr.tests_of_hasSql`), so it can be lifted. A lift puts a projection
in the place of the parameter, at the inner end of every way to a property, and the renderer lists the labels
of a way from the inner end on. So every step of the renderer on the lifted expression gives what it gave
before, with the new label in front of the path of each column (`Sql.renderCondition_apply`).

This is said of one lift (`Specification.Rendering.lift`) and, by induction, of lifts one after another, whose
labels come from the outermost one inwards (`Specification.Rendering.liftEach`). In the text of the condition,
this qualifies the columns and changes nothing else (`Specification.render_lift`).
-/

namespace EntityQuery

variable {S : Schema}

/-! ### What has a rendering has no tests -/

namespace Expr

variable {bound : Parameter S} {e : Expr S}

theorem tests_of_row {t : S.Entity} (h : e.Fits bound (.row t)) : e.tests = [] := by
  induction e using Expr.induct generalizing t with
  | parameter p => rfl
  | project target p ih => exact ih (Fits.project_row_iff.mp h).1
  | constant | member | compare | call | and | or | not | test => cases h

theorem tests_of_isColumn (h : e.Fits bound .value) (hcolumn : e.isColumn = true) : e.tests = [] := by
  cases e with
  | member target m =>
    rw [tests]
    exact tests_of_row (Fits.member_value_iff.mp h)
  | parameter | constant | project | compare | call | and | or | not | test => cases hcolumn

theorem tests_of_isScalar (h : e.Fits bound .value) (hscalar : e.isScalar = true) : e.tests = [] := by
  cases e with
  | constant v => rfl
  | parameter | member | project | compare | call | and | or | not | test => exact tests_of_isColumn h hscalar

/-- The arguments of calls that have a rendering are constants. -/
theorem tests_of_rendersWith {m : Method} (h : m.rendersWith e = true) : e.tests = [] := by
  cases e with
  | constant v => rfl
  | parameter | member | project | compare | call | and | or | not | test => cases m <;> cases h

/-- A well-formed condition that has a rendering has no tests. -/
theorem tests_of_hasSql (h : e.Fits bound .condition) (hsql : e.hasSql = true) : e.tests = [] := by
  induction e using Expr.induct with
  | constant v => rfl
  | member target m =>
    rw [tests]
    exact tests_of_row (Fits.member_condition_iff.mp h).1
  | compare op l r =>
    obtain ⟨hl, hr⟩ := Fits.compare_condition_iff.mp h
    obtain ⟨hsl, hsr⟩ := Bool.and_eq_true_iff.mp hsql
    rw [tests, tests_of_isScalar hl hsl, tests_of_isScalar hr hsr, List.append_nil]
  | call m target args =>
    obtain ⟨-, htarget, -⟩ := Fits.call_condition_iff.mp h
    obtain ⟨hcolumn, hargs⟩ := Bool.and_eq_true_iff.mp hsql
    have hnone : testsOf args = [] := by
      refine List.eq_nil_iff_forall_not_mem.mpr fun u hu => ?_
      obtain ⟨arg, harg, hu⟩ := mem_testsOf.mp hu
      rw [tests_of_rendersWith (List.all_eq_true.mp hargs arg harg)] at hu
      cases hu
    rw [tests, tests_of_isColumn htarget hcolumn, hnone, List.append_nil]
  | and l r ihl ihr =>
    obtain ⟨hl, hr⟩ := Fits.and_condition_iff.mp h
    obtain ⟨hsl, hsr⟩ := Bool.and_eq_true_iff.mp hsql
    rw [tests, ihl hl hsl, ihr hr hsr, List.append_nil]
  | or l r ihl ihr =>
    obtain ⟨hl, hr⟩ := Fits.or_condition_iff.mp h
    obtain ⟨hsl, hsr⟩ := Bool.and_eq_true_iff.mp hsql
    rw [tests, ihl hl hsl, ihr hr hsr, List.append_nil]
  | not e ih => exact ih (Fits.not_condition_iff.mp h) hsql
  | parameter | project | test => cases hsql

end Expr

/-! ### Rendering after a substitution -/

attribute [local simp] Substitution.apply Substitution.applyEach

section Substitution

variable {s : Substitution S} {bound q : Parameter S} {p : Projection S} {e e' : Expr S}

/-- A property is read from what is put where it was read from. -/
theorem Substitution.apply_member_eq_ok {target : Expr S} {m : Member S} (h : s.apply (.member target m) = .ok e') :
    ∃ target', s.apply target = .ok target' ∧ e' = .member target' m := by
  simp only [apply, bind_eq_ok_iff, Except.ok.injEq] at h
  obtain ⟨target', htarget, rfl⟩ := h
  exact ⟨target', htarget, rfl⟩

namespace Sql

theorem scalarFamily_apply {m : Method} {f : Family} (h : scalarFamily m e = .ok f)
    (happly : s.apply e = .ok e') : scalarFamily m e' = .ok f := by
  obtain ⟨target, r, rfl, hr, rfl⟩ := scalarFamily_eq_ok h
  obtain ⟨target', -, rfl⟩ := Substitution.apply_member_eq_ok happly
  rw [scalarFamily, if_neg (Bool.eq_false_iff.mp hr)]

theorem textLiteral_apply {m : Method} {text : String} (h : textLiteral m e = .ok text)
    (happly : s.apply e = .ok e') : textLiteral m e' = .ok text := by
  obtain rfl := textLiteral_eq_ok h
  obtain rfl := Except.ok.inj happly
  exact h

-- A projection from the new parameter `q` takes the place of the parameter.
variable (hs : s.find? bound = some (.project (.parameter q) p))

include hs

/-- The label of what takes the place of the parameter comes before those that the way has already. -/
theorem path_apply {names : List String} (h : path bound e = .ok names) (happly : s.apply e = .ok e') :
    path q e' = .ok (p.label :: names) := by
  induction e using Expr.induct generalizing names e' with
  | parameter r =>
    rw [path] at h
    split at h
    · rename_i hr
      obtain rfl := Except.ok.inj h
      rw [Substitution.apply, hr, hs] at happly
      obtain rfl := Except.ok.inj happly
      simp [path, bind, Except.bind]
    · cases h
  | project target r ih =>
    simp only [path, bind_eq_ok_iff, Except.ok.injEq] at h
    obtain ⟨before, hbefore, rfl⟩ := h
    simp only [Substitution.apply, bind_eq_ok_iff, Except.ok.injEq] at happly
    obtain ⟨target', htarget, rfl⟩ := happly
    rw [path, ih hbefore htarget]
    rfl
  | constant | member | compare | call | and | or | not | test => cases h

theorem column_apply {m : Member S} {c : Column} (h : column bound e m = .ok c) (happly : s.apply e = .ok e') :
    column q e' m = .ok (c.within [p.label]) := by
  simp only [column, bind_eq_ok_iff, Except.ok.injEq] at h
  obtain ⟨names, hnames, rfl⟩ := h
  rw [column, path_apply hs hnames happly]
  rfl

theorem scalarColumn_apply {c : Column} (h : scalarColumn bound e = .ok c) (happly : s.apply e = .ok e') :
    scalarColumn q e' = .ok (c.within [p.label]) := by
  obtain ⟨target, m, rfl, hm, hc⟩ := scalarColumn_eq_ok h
  obtain ⟨target', htarget, rfl⟩ := Substitution.apply_member_eq_ok happly
  rw [scalarColumn, if_neg (Bool.eq_false_iff.mp hm), column_apply hs hc htarget]

theorem scalar_apply {a : Scalar} (h : scalar bound e = .ok a) (happly : s.apply e = .ok e') :
    scalar q e' = .ok (a.within [p.label]) := by
  cases e with
  | constant v =>
    obtain rfl := Except.ok.inj happly
    cases v with
    | list => cases h
    | null | bool | int | decimal | string | dateTime | uuid =>
      obtain rfl := Except.ok.inj h
      rfl
  | member target m =>
    obtain ⟨c, hc, rfl⟩ := map_eq_ok_iff.mp h
    have hcolumn := scalarColumn_apply hs hc happly
    obtain ⟨target', -, rfl⟩ := Substitution.apply_member_eq_ok happly
    exact map_eq_ok_iff.mpr ⟨_, hcolumn, rfl⟩
  | parameter | project | compare | call | and | or | not | test => cases h

theorem textColumn_apply {mode : CaseMode} {a : Scalar} (h : textColumn bound mode e = .ok a)
    (happly : s.apply e = .ok e') :
    textColumn q mode e' = .ok (a.within [p.label]) := by
  obtain ⟨c, hc, ha⟩ := bind_eq_ok_iff.mp h
  refine bind_eq_ok_iff.mpr ⟨_, scalarColumn_apply hs hc happly, ?_⟩
  cases mode with
  | ordinal | ignoreCase =>
    obtain rfl := Except.ok.inj ha
    rfl

/-! ### Calls -/

variable {target target' arg arg' : Expr S} {c : Condition}

theorem renderLike_apply {m : Method} {mode : CaseMode} {leading trailing : Bool}
    (h : renderLike bound m mode leading trailing target arg = .ok c)
    (htarget : s.apply target = .ok target') (harg : s.apply arg = .ok arg') :
    renderLike q m mode leading trailing target' arg' = .ok (c.within [p.label]) := by
  simp only [renderLike, bind_eq_ok_iff, Except.ok.injEq] at h ⊢
  obtain ⟨needle, hneedle, a, ha, rfl⟩ := h
  exact ⟨needle, textLiteral_apply hneedle harg, _, textColumn_apply hs ha htarget, rfl⟩

theorem renderTextEquals_apply {mode : CaseMode} (h : renderCall bound (.textEquals mode) target [arg] = .ok c)
    (htarget : s.apply target = .ok target') (harg : s.apply arg = .ok arg') :
    renderCall q (.textEquals mode) target' [arg'] = .ok (c.within [p.label]) := by
  simp only [renderCall, bind_eq_ok_iff, Except.ok.injEq] at h ⊢
  obtain ⟨text, htext, a, ha, rfl⟩ := h
  exact ⟨text, textLiteral_apply htext harg, _, textColumn_apply hs ha htarget, rfl⟩

theorem renderIsDefault_apply (h : renderCall bound .isDefault target [] = .ok c)
    (htarget : s.apply target = .ok target') : renderCall q .isDefault target' [] = .ok (c.within [p.label]) := by
  simp only [renderCall, bind_eq_ok_iff, Except.ok.injEq] at h ⊢
  obtain ⟨f, hf, col, hcol, rfl⟩ := h
  exact ⟨f, scalarFamily_apply hf htarget, _, scalarColumn_apply hs hcol htarget, rfl⟩

/-- An overlap with nothing names no column, and goes on naming none. -/
theorem renderOverlaps_apply (h : renderCall bound .overlaps target [arg] = .ok c)
    (htarget : s.apply target = .ok target') (harg : s.apply arg = .ok arg') :
    renderCall q .overlaps target' [arg'] = .ok (c.within [p.label]) := by
  obtain ⟨f, hf, h⟩ := bind_eq_ok_iff.mp h
  refine bind_eq_ok_iff.mpr ⟨f, scalarFamily_apply hf htarget, ?_⟩
  cases arg with
  | constant v =>
    obtain rfl := Except.ok.inj harg
    dsimp only at h ⊢
    split at h
    · rename_i hv
      obtain rfl := Except.ok.inj h
      rw [if_pos hv]
      rfl
    · rename_i hv
      obtain ⟨a, ha, hc⟩ := bind_eq_ok_iff.mp h
      obtain rfl := Except.ok.inj hc
      rw [if_neg hv, scalar_apply hs ha htarget]
      rfl
  | parameter | member | project | compare | call | and | or | not | test => cases h

theorem renderCall_apply {m : Method} {args args' : List (Expr S)} (h : renderCall bound m target args = .ok c)
    (htarget : s.apply target = .ok target') (hargs : s.applyEach args = .ok args') :
    renderCall q m target' args' = .ok (c.within [p.label]) := by
  rcases Substitution.applyEach_eq_ok hargs with _ | ⟨harg, _ | ⟨harg', hrest⟩⟩
  · cases m with
    | isDefault => exact renderIsDefault_apply hs h htarget
    | contains | startsWith | endsWith | textEquals | overlaps | setEquals => cases h
  · cases m with
    | contains mode | startsWith mode | endsWith mode => exact renderLike_apply hs h htarget harg
    | textEquals mode => exact renderTextEquals_apply hs h htarget harg
    | overlaps => exact renderOverlaps_apply hs h htarget harg
    | isDefault | setEquals => cases h
  · cases m <;> cases h

/-! ### Conditions -/

theorem renderCompare_apply {op : CompareOp} {l l' r r' : Expr S} (h : renderCompare bound op l r = .ok c)
    (hl : s.apply l = .ok l') (hr : s.apply r = .ok r') : renderCompare q op l' r' = .ok (c.within [p.label]) := by
  simp only [renderCompare, bind_eq_ok_iff] at h ⊢
  obtain ⟨a, ha, b, hb, hc⟩ := h
  refine ⟨_, scalar_apply hs ha hl, _, scalar_apply hs hb hr, ?_⟩
  cases op with
  | eq | ne | lt | lte | gt | gte =>
    obtain rfl := Except.ok.inj hc
    rfl

/-- The condition of what a substitution makes of an expression is the condition of the expression, with the
label of what takes the place of the parameter in front of the path of each column. -/
theorem renderCondition_apply (h : renderCondition bound e = .ok c) (happly : s.apply e = .ok e') :
    renderCondition q e' = .ok (c.within [p.label]) := by
  induction e using Expr.induct generalizing c e' with
  | parameter | project | test => cases h
  | constant v =>
    obtain rfl := Except.ok.inj happly
    cases v with
    | bool b =>
      obtain rfl := Except.ok.inj h
      rfl
    | null | int | decimal | string | dateTime | uuid | list => cases h
  | member target m _ =>
    obtain ⟨target', htarget, rfl⟩ := Substitution.apply_member_eq_ok happly
    simp only [renderCondition] at h ⊢
    split at h
    · rename_i hm
      simp only [bind_eq_ok_iff, Except.ok.injEq] at h
      obtain ⟨col, hcol, rfl⟩ := h
      rw [if_pos hm, column_apply hs hcol htarget]
      rfl
    · cases h
  | compare op l r _ _ =>
    simp only [Substitution.apply, bind_eq_ok_iff, Except.ok.injEq] at happly
    obtain ⟨l', hl, r', hr, rfl⟩ := happly
    exact renderCompare_apply hs h hl hr
  | call m target args _ _ =>
    simp only [Substitution.apply, bind_eq_ok_iff, Except.ok.injEq] at happly
    obtain ⟨target', htarget, args', hargs, rfl⟩ := happly
    exact renderCall_apply hs h htarget hargs
  | and l r ihl ihr | or l r ihl ihr =>
    simp only [Substitution.apply, bind_eq_ok_iff, Except.ok.injEq] at happly
    obtain ⟨l', hl, r', hr, rfl⟩ := happly
    simp only [renderCondition, bind_eq_ok_iff, Except.ok.injEq] at h ⊢
    obtain ⟨a, ha, b, hb, rfl⟩ := h
    exact ⟨_, ihl ha hl, _, ihr hb hr, rfl⟩
  | not e ih =>
    simp only [Substitution.apply, bind_eq_ok_iff, Except.ok.injEq] at happly
    obtain ⟨e₁, he, rfl⟩ := happly
    simp only [renderCondition, bind_eq_ok_iff, Except.ok.injEq] at h ⊢
    obtain ⟨a, ha, rfl⟩ := h
    exact ⟨_, ih ha he, rfl⟩

end Sql

end Substitution

/-! ### Texts -/

namespace Sql

/-- The tree is rendered as a text with these pieces and these parameters. -/
def RendersAs {t : S.Entity} (d : Dialect) (tree : Tree S t) (ps : List Piece) (params : List Value) : Prop :=
  ∃ q, render d tree = .ok q ∧ q.sql = spell d ps ∧ split d 0 q.sql.toList = some ps ∧ q.params = params

theorem rendersAs_of_conditionOf {t : S.Entity} {tree : Tree S t} {c : Condition}
    (h : conditionOf tree = .ok c) (d : Dialect) :
    RendersAs d tree (pieces 0 c.tokens) (boundValues c.tokens) :=
  ⟨.ofTokens d 0 c.tokens, map_eq_ok_iff.mpr ⟨c, h, rfl⟩, (spell_pieces d 0 c.tokens).symm,
    split_writeTokens d 0 (Readable.condition c), rfl⟩

end Sql

/-! ### Lifts one after another -/

namespace Specification

open Fresh

variable {t p : S.Entity} {a : Specification S t}

/-- Lifts of specifications about rows of one type to rows of another, one after the other. -/
inductive Lifts (S : Schema) (t : S.Entity) : S.Entity → Type where
  | none : Lifts S t t
  | through {p : S.Entity} (before : Lifts S t p) (label : String) (q : S.Entity)
      (map : S.Row q → S.Row p) : Lifts S t q

/-- The labels, from the outermost one inwards: that of the last lift comes first. -/
def Lifts.labels {p : S.Entity} : Lifts S t p → List String
  | none => []
  | through before label _ _ => label :: before.labels

/-- The specification after all of the lifts. -/
def liftEach {p : S.Entity} (a : Specification S t) : Lifts S t p → Fresh (Result (Specification S p))
  | .none => return .ok a
  | .through before label q map => do
    match ← a.liftEach before with
    | .error e => return .error e
    | .ok b => b.lift label q map

/-- The specification compiles, and it is rendered to the condition. -/
structure Rendering (a : Specification S t) (c : Sql.Condition) : Prop where
  compiles : a.Compiles
  conditionOf_eq : Sql.conditionOf a.tree = .ok c

namespace Rendering

variable {c : Sql.Condition}

theorem tests_eq_nil (h : a.Rendering c) : a.tree.body.tests = [] := by
  have hfits := compiles_iff.mp h.compiles
  obtain ⟨q, hq, -⟩ := Sql.rendersAs_of_conditionOf h.conditionOf_eq .postgres
  exact Expr.tests_of_hasSql hfits ((Sql.render_isOk_iff hfits .postgres).mp ⟨q, hq⟩)

/-- One lift puts its label in front of the path of each column. -/
theorem lift (h : a.Rendering c) (label : String) (map : S.Row p → S.Row t) :
    (a.lift label p map).Ensures fun out => ∃ b, out = .ok b ∧ b.Rendering (c.within [label]) := by
  intro s
  obtain ⟨b, hb, -, hmeans⟩ := lift_of_tests_eq_nil h.compiles.means h.tests_eq_nil label map s
  refine ⟨b, hb, hmeans.compiles, ?_⟩
  rw [lift_eq] at hb
  obtain ⟨body, happly, rfl⟩ := map_eq_ok_iff.mp hb
  have hcondition := mapError_eq_ok_iff.mp h.conditionOf_eq
  have hfind := (liftBy_leads (a := a) label map s.parameters).find?_eq
  exact mapError_eq_ok_iff.mpr (Sql.renderCondition_apply hfind hcondition happly)

/-- Lifts one after another put all of their labels there, the last one outermost. -/
theorem liftEach (h : a.Rendering c) (w : Lifts S t p) :
    (a.liftEach w).Ensures fun out => ∃ b, out = .ok b ∧ b.Rendering (c.within w.labels) := by
  induction w with
  | none => exact .pure ⟨a, rfl, by rwa [Lifts.labels, Sql.Condition.within_nil]⟩
  | through before label q map ih =>
    refine ih.bind fun out hout => ?_
    obtain ⟨b, rfl, hb⟩ := hout
    have hlift := hb.lift label map
    rwa [Sql.Condition.within_within] at hlift

/-- The text of a condition with further to go is the text of the condition, qualified, with the same
parameters. -/
theorem rendersAs {labels : List String} (h : a.Rendering (c.within labels)) (d : Sql.Dialect) :
    Sql.RendersAs d a.tree (Sql.qualify labels (Sql.pieces 0 c.tokens)) (Sql.boundValues c.tokens) := by
  rw [Sql.qualify_condition, ← Sql.boundValues_within labels c]
  exact Sql.rendersAs_of_conditionOf h.conditionOf_eq d

end Rendering

/-! ### The text of a lifted specification -/

/-- A specification that compiles and is rendered in some dialect is rendered in every dialect, as a text whose
columns are those that it reads. Lifted, along whatever function, it compiles and is rendered in every dialect
with the same parameters, as the same text but for the label in front of every column. After several lifts
every column comes after all of their labels, from the outermost one inwards. -/
theorem render_lift {d : Sql.Dialect} {q : Sql.Fragment} (ha : a.Compiles) (h : Sql.render d a.tree = .ok q) :
    ∃ ps, (∀ d, Sql.RendersAs d a.tree ps q.params) ∧
      Sql.columnsIn ps = a.tree.body.printed.map (fun r => r.1.labels ++ [r.2.name]) ∧
      (∀ labels, Sql.columnsIn (Sql.qualify labels ps) = (Sql.columnsIn ps).map (labels ++ ·)) ∧
      (∀ (p : S.Entity) (label : String) (map : S.Row p → S.Row t) (s : Supply),
        ∃ b, (a.lift label p map s).1 = .ok b ∧ b.Compiles ∧
          ∀ d, Sql.RendersAs d b.tree (Sql.qualify [label] ps) q.params) ∧
      ∀ (p : S.Entity) (w : Lifts S t p) (s : Supply),
        ∃ b, (a.liftEach w s).1 = .ok b ∧ b.Compiles ∧
          ∀ d, Sql.RendersAs d b.tree (Sql.qualify w.labels ps) q.params := by
  obtain ⟨c, hc, rfl⟩ := map_eq_ok_iff.mp (show _ <$> Sql.conditionOf a.tree = _ from h)
  have hrendering : a.Rendering c := ⟨ha, hc⟩
  refine ⟨Sql.pieces 0 c.tokens, Sql.rendersAs_of_conditionOf hc, ?_, fun labels =>
    Sql.columnsIn_qualify labels 0 c, fun p label map s => ?_, fun p w s => ?_⟩
  · have hcolumns := (Sql.rendered_of_renderCondition (mapError_eq_ok_iff.mp hc)).columns.eq_map
    rw [Sql.columnsIn_condition, hcolumns, List.map_map]
    rfl
  · obtain ⟨b, hb, hlifted⟩ := hrendering.lift label map s
    exact ⟨b, hb, hlifted.compiles, hlifted.rendersAs⟩
  · obtain ⟨b, hb, hlifted⟩ := hrendering.liftEach w s
    exact ⟨b, hb, hlifted.compiles, hlifted.rendersAs⟩

/-- From companies to the people who work there, and on to the friends of these. -/
def friends : Lifts People.schema People.company People.person :=
  .through (.through (p := People.company) .none "Employer" People.person People.Person.employer) "Friend"
    People.person id

/-- A friend has an employer that is not listed. -/
theorem render_lift_unlisted :
    ∃ b ps, (People.unlisted.liftEach friends {}).1 = .ok b ∧
      Sql.columnsIn ps = [["Friend", "Employer", "Listed"]] ∧ ∀ d, Sql.RendersAs d b.tree ps [.bool true] := by
  obtain ⟨q, hq, hparams⟩ : ∃ q, Sql.render .mysql People.unlisted.tree = .ok q ∧ q.params = [.bool true] :=
    ⟨_, rfl, rfl⟩
  have hcompiles : People.unlisted.Compiles := ⟨_, rfl⟩
  obtain ⟨ps, -, hcolumns, hqualify, -, hlifts⟩ := render_lift hcompiles hq
  obtain ⟨b, hb, -, hrender⟩ := hlifts People.person friends {}
  refine ⟨b, Sql.qualify friends.labels ps, hb, ?_, hparams ▸ hrender⟩
  rw [hqualify, hcolumns]
  rfl

example : ∃ b q, (People.employed.lift "Friend" People.person id {}).1 = .ok b ∧
    Sql.render .postgres b.tree = .ok q ∧ q.sql = "\"Friend\".\"Employer\".\"Listed\" = $1" :=
  ⟨_, _, rfl, rfl, rfl⟩

end Specification

end EntityQuery

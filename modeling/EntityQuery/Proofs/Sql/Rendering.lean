import EntityQuery.Proofs.Expr.Compilation
import EntityQuery.Sql.Render

/-!
# What is rendered

Which condition of SQL stands for which expression is said here by rules, one for each way to build an
expression that has a rendering (`Rendered`). The renderer walks the expression and may fail at every step;
what it returns is what the rules say (`rendered_of_renderCondition`). Proofs about rendered conditions are
inductions over the rules.
-/

namespace EntityQuery

variable {S : Schema}

/-- The names of the projections on the way from the parameter to an entity. -/
def Expr.labels : Expr S → List String
  | .project target p => target.labels ++ [p.label]
  | _ => []

namespace Sql

variable {bound : Parameter S}

/-! ### Columns -/

/-- The column of a property of an entity. -/
def columnOf (target : Expr S) (m : Member S) : Column := ⟨target.labels, m.name⟩

theorem path_eq_labels {e : Expr S} {names : List String} (h : path bound e = .ok names) :
    names = e.labels := by
  induction e using Expr.induct generalizing names with
  | parameter p =>
    rw [path] at h
    split at h
    · cases h
      rfl
    · cases h
  | project target p ih =>
    simp only [path, bind_eq_ok_iff, Except.ok.injEq] at h
    obtain ⟨before, hbefore, rfl⟩ := h
    rw [ih hbefore, Expr.labels]
  | constant | member | compare | call | and | or | not | test => cases h

theorem column_eq_columnOf {target : Expr S} {m : Member S} {c : Column}
    (h : column bound target m = .ok c) : c = columnOf target m := by
  simp only [column, bind_eq_ok_iff, Except.ok.injEq] at h
  obtain ⟨names, hnames, rfl⟩ := h
  rw [path_eq_labels hnames, columnOf]

/-- Only a single property is a column. -/
theorem scalarColumn_eq_ok {e : Expr S} {c : Column} (h : scalarColumn bound e = .ok c) :
    ∃ target m, e = .member target m ∧ m.type.isCollection = false ∧ column bound target m = .ok c := by
  cases e with
  | member target m =>
    simp only [scalarColumn] at h
    split at h
    · cases h
    · rename_i hm
      exact ⟨target, m, rfl, Bool.eq_false_iff.mpr hm, h⟩
  | parameter | constant | project | compare | call | and | or | not | test => cases h

/-- A scalar is a constant, which is bound, or the column of a single property. -/
theorem scalar_eq_ok {e : Expr S} {s : Scalar} (h : scalar bound e = .ok s) :
    (∃ v, e = .constant v ∧ s = .bound v) ∨
      ∃ target m c, e = .member target m ∧ column bound target m = .ok c ∧ s = .column c := by
  cases e with
  | constant v =>
    cases v with
    | list items => cases h
    | null | bool | int | decimal | string | dateTime | uuid =>
      cases h
      exact .inl ⟨_, rfl, rfl⟩
  | member target m =>
    obtain ⟨c, hc, rfl⟩ := map_eq_ok_iff.mp h
    obtain ⟨target', m', he, -, hcolumn⟩ := scalarColumn_eq_ok hc
    cases he
    exact .inr ⟨target, m, c, rfl, hcolumn, rfl⟩
  | parameter | project | compare | call | and | or | not | test => cases h

/-- A column as a method of texts sees it. -/
def textScalar (mode : CaseMode) (c : Column) : Scalar :=
  match mode with
  | .ordinal => .column c
  | .ignoreCase => .lower c

theorem textColumn_eq_ok {mode : CaseMode} {e : Expr S} {s : Scalar}
    (h : textColumn bound mode e = .ok s) :
    ∃ target m c, e = .member target m ∧ column bound target m = .ok c ∧ s = textScalar mode c := by
  simp only [textColumn, bind_eq_ok_iff] at h
  obtain ⟨c, hc, hs⟩ := h
  obtain ⟨target, m, rfl, -, hcolumn⟩ := scalarColumn_eq_ok hc
  refine ⟨target, m, c, rfl, hcolumn, ?_⟩
  cases mode with
  | ordinal =>
    cases hs
    rfl
  | ignoreCase =>
    cases hs
    rfl

theorem textLiteral_eq_ok {m : Method} {e : Expr S} {s : String} (h : textLiteral m e = .ok s) :
    e = .constant (.string s) := by
  unfold textLiteral at h
  split at h
  · cases h
    rfl
  · cases h

theorem scalarFamily_eq_ok {m : Method} {e : Expr S} {f : Family} (h : scalarFamily m e = .ok f) :
    ∃ target p, e = .member target p ∧ p.type.isCollection = false ∧ f = p.type.family := by
  unfold scalarFamily at h
  split at h
  · rename_i target p
    split at h
    · cases h
    · rename_i hp
      cases h
      exact ⟨target, p, rfl, Bool.eq_false_iff.mpr hp, rfl⟩
  · cases h

/-! ### Rules -/

/-- The comparison of SQL that an operator is. Inequality is none. -/
def comparisonOf : CompareOp → Option Comparison
  | .eq => some .eq
  | .ne => none
  | .lt => some .lt
  | .lte => some .lte
  | .gt => some .gt
  | .gte => some .gte

/-- How a method compares that is a pattern, and whether anything may stand before and after what it looks
for. -/
def patternOf : Method → Option (CaseMode × Bool × Bool)
  | .contains mode => some (mode, true, true)
  | .startsWith mode => some (mode, false, true)
  | .endsWith mode => some (mode, true, false)
  | _ => none

/-- Which conditions stand for which expressions about the parameter `bound`. -/
inductive Rendered (bound : Parameter S) : Expr S → Condition → Prop where
  | truth (b : Bool) : Rendered bound (.constant (.bool b)) (.literal b)
  | flag {target : Expr S} {m : Member S} {c : Column} :
      m.type.isCondition = true → column bound target m = .ok c →
        Rendered bound (.member target m) (.compare .eq (.column c) (.bound (.bool true)))
  | compare {op : CompareOp} {how : Comparison} {l r : Expr S} {a b : Scalar} :
      comparisonOf op = some how → scalar bound l = .ok a → scalar bound r = .ok b →
        Rendered bound (.compare op l r) (.compare how a b)
  | unequal {l r : Expr S} {a b : Scalar} :
      scalar bound l = .ok a → scalar bound r = .ok b →
        Rendered bound (.compare .ne l r) (.notTrue (.compare .eq a b))
  | like {m : Method} {mode : CaseMode} {leading trailing : Bool} {target : Expr S} {p : Member S}
      {c : Column} (needle : String) :
      patternOf m = some (mode, leading, trailing) → column bound target p = .ok c →
        Rendered bound (.call m (.member target p) [.constant (.string needle)])
          (.like (textScalar mode c) (likePattern leading trailing mode needle))
  | textEquals {mode : CaseMode} {target : Expr S} {p : Member S} {c : Column} (s : String) :
      column bound target p = .ok c →
        Rendered bound (.call (.textEquals mode) (.member target p) [.constant (.string s)])
          (.compare .eq (textScalar mode c) (.bound (.string (.ofList (mode.fold s.toList)))))
  | isDefault {target : Expr S} {p : Member S} {c : Column} :
      p.type.isCollection = false → column bound target p = .ok c →
        Rendered bound (.call .isDefault (.member target p) []) (.nullOr c p.type.family.defaultValue)
  /-- Nothing has a member in common with nothing. -/
  | overlapsNone {target : Expr S} {p : Member S} {v : Value} :
      p.type.isCollection = false → v.members = [] →
        Rendered bound (.call .overlaps (.member target p) [.constant v]) (.literal false)
  | overlaps {target : Expr S} {p : Member S} {c : Column} {v : Value} :
      p.type.isCollection = false → v.members ≠ [] → column bound target p = .ok c →
        Rendered bound (.call .overlaps (.member target p) [.constant v]) (.isIn (.column c) v.members)
  | and {l r : Expr S} {a b : Condition} :
      Rendered bound l a → Rendered bound r b → Rendered bound (.and l r) (.and a b)
  | or {l r : Expr S} {a b : Condition} :
      Rendered bound l a → Rendered bound r b → Rendered bound (.or l r) (.or a b)
  /-- A negation asks for what is not true, be it false or unknown. -/
  | not {e : Expr S} {c : Condition} : Rendered bound e c → Rendered bound (.not e) (.notTrue c)

/-! ### The walk follows the rules -/

theorem rendered_of_renderCompare {op : CompareOp} {l r : Expr S} {c : Condition}
    (h : renderCompare bound op l r = .ok c) : Rendered bound (.compare op l r) c := by
  simp only [renderCompare, bind_eq_ok_iff] at h
  obtain ⟨a, ha, b, hb, hc⟩ := h
  cases op with
  | ne =>
    cases hc
    exact .unequal ha hb
  | eq | lt | lte | gt | gte =>
    cases hc
    exact .compare rfl ha hb

theorem rendered_of_renderLike {m : Method} {mode : CaseMode} {leading trailing : Bool}
    {target arg : Expr S} {c : Condition} (hm : patternOf m = some (mode, leading, trailing))
    (h : renderLike bound m mode leading trailing target arg = .ok c) :
    Rendered bound (.call m target [arg]) c := by
  simp only [renderLike, bind_eq_ok_iff, Except.ok.injEq] at h
  obtain ⟨needle, hneedle, s, hs, rfl⟩ := h
  obtain rfl := textLiteral_eq_ok hneedle
  obtain ⟨target', p, c, rfl, hc, rfl⟩ := textColumn_eq_ok hs
  exact .like needle hm hc

theorem rendered_of_textEquals {mode : CaseMode} {target arg : Expr S} {c : Condition}
    (h : renderCall bound (.textEquals mode) target [arg] = .ok c) :
    Rendered bound (.call (.textEquals mode) target [arg]) c := by
  simp only [renderCall, bind_eq_ok_iff, Except.ok.injEq] at h
  obtain ⟨s, hs, a, ha, rfl⟩ := h
  obtain rfl := textLiteral_eq_ok hs
  obtain ⟨target', p, c, rfl, hc, rfl⟩ := textColumn_eq_ok ha
  exact .textEquals s hc

theorem rendered_of_isDefault {target : Expr S} {c : Condition}
    (h : renderCall bound .isDefault target [] = .ok c) :
    Rendered bound (.call .isDefault target []) c := by
  simp only [renderCall, bind_eq_ok_iff, Except.ok.injEq] at h
  obtain ⟨f, hf, col, hcol, rfl⟩ := h
  obtain ⟨target', p, rfl, hp, rfl⟩ := scalarFamily_eq_ok hf
  obtain ⟨target'', p', he, -, hc⟩ := scalarColumn_eq_ok hcol
  cases he
  exact .isDefault hp hc

theorem rendered_of_overlaps {target arg : Expr S} {c : Condition}
    (h : renderCall bound .overlaps target [arg] = .ok c) :
    Rendered bound (.call .overlaps target [arg]) c := by
  simp only [renderCall, bind_eq_ok_iff] at h
  obtain ⟨f, hf, h⟩ := h
  obtain ⟨target', p, rfl, hp, rfl⟩ := scalarFamily_eq_ok hf
  split at h
  · rename_i v
    split at h
    · rename_i hv
      cases h
      exact .overlapsNone hp (List.isEmpty_iff.mp hv)
    · rename_i hv
      simp only [bind_eq_ok_iff, Except.ok.injEq] at h
      obtain ⟨s, hs, rfl⟩ := h
      rcases scalar_eq_ok hs with ⟨w, he, -⟩ | ⟨target'', p', col, he, hcol, rfl⟩
      · cases he
      · cases he
        exact .overlaps hp (fun hnil => hv (List.isEmpty_iff.mpr hnil)) hcol
  · cases h

theorem rendered_of_renderCall {m : Method} {target : Expr S} {args : List (Expr S)} {c : Condition}
    (h : renderCall bound m target args = .ok c) : Rendered bound (.call m target args) c := by
  rcases args with _ | ⟨arg, _ | ⟨arg', rest⟩⟩
  · cases m with
    | isDefault => exact rendered_of_isDefault h
    | contains | startsWith | endsWith | textEquals | overlaps | setEquals => cases h
  · cases m with
    | contains mode => exact rendered_of_renderLike rfl h
    | startsWith mode => exact rendered_of_renderLike rfl h
    | endsWith mode => exact rendered_of_renderLike rfl h
    | textEquals mode => exact rendered_of_textEquals h
    | overlaps => exact rendered_of_overlaps h
    | isDefault | setEquals => cases h
  · cases m <;> cases h

/-- What the renderer returns is what the rules say. -/
theorem rendered_of_renderCondition {e : Expr S} {c : Condition}
    (h : renderCondition bound e = .ok c) : Rendered bound e c := by
  induction e using Expr.induct generalizing c with
  | parameter | project | test => cases h
  | constant v =>
    cases v with
    | bool b =>
      cases h
      exact .truth b
    | null | int | decimal | string | dateTime | uuid | list => cases h
  | member target m _ =>
    simp only [renderCondition] at h
    split at h
    · rename_i hm
      simp only [bind_eq_ok_iff, Except.ok.injEq] at h
      obtain ⟨col, hcol, rfl⟩ := h
      exact .flag hm hcol
    · cases h
  | compare op l r _ _ => exact rendered_of_renderCompare h
  | call m target args _ _ => exact rendered_of_renderCall h
  | and l r ihl ihr =>
    simp only [renderCondition, bind_eq_ok_iff, Except.ok.injEq] at h
    obtain ⟨a, ha, b, hb, rfl⟩ := h
    exact .and (ihl ha) (ihr hb)
  | or l r ihl ihr =>
    simp only [renderCondition, bind_eq_ok_iff, Except.ok.injEq] at h
    obtain ⟨a, ha, b, hb, rfl⟩ := h
    exact .or (ihl ha) (ihr hb)
  | not e ih =>
    simp only [renderCondition, bind_eq_ok_iff, Except.ok.injEq] at h
    obtain ⟨a, ha, rfl⟩ := h
    exact .not (ih ha)

/-- A tree that is rendered has the text of a condition that the rules allow. -/
theorem exists_rendered_of_render {t : S.Entity} {d : Dialect} {tree : Tree S t} {q : Fragment}
    (h : render d tree = .ok q) :
    ∃ c, Rendered tree.parameter tree.body c ∧ q = .ofTokens d 0 c.tokens := by
  obtain ⟨c, hc, rfl⟩ := map_eq_ok_iff.mp (show _ <$> conditionOf tree = _ from h)
  exact ⟨c, rendered_of_renderCondition (mapError_eq_ok_iff.mp hc), rfl⟩

end Sql

end EntityQuery

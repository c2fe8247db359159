import EntityQuery.Expr.Basic

/-!
# Places of expressions

An expression stands in a place, which asks for rows of some type, for a value or for a condition. Which
expressions fit which places is defined here by rules, one for each way to build an expression
(`Expr.Fits`). A condition is a value too; a constant or a property is a value without more ado, and a
condition only if it is a truth value.

The rules say nothing about how an expression is checked. That the compiler accepts exactly the
conditions that fit is proved with the compiler.
-/

namespace EntityQuery

variable {S : Schema}

/-- What a place asks for. -/
inductive Place (S : Schema) where
  /-- A row of this type. -/
  | row (e : S.Entity)
  | value
  | condition

namespace Expr

/-- Induction over expressions, in which every argument of a call satisfies the hypothesis. -/
theorem induct {motive : Expr S → Prop}
    (parameter : ∀ p, motive (.parameter p))
    (constant : ∀ v, motive (.constant v))
    (member : ∀ target m, motive target → motive (.member target m))
    (project : ∀ target p, motive target → motive (.project target p))
    (compare : ∀ op l r, motive l → motive r → motive (.compare op l r))
    (call : ∀ m target args, motive target → (∀ e ∈ args, motive e) → motive (.call m target args))
    (and : ∀ l r, motive l → motive r → motive (.and l r))
    (or : ∀ l r, motive l → motive r → motive (.or l r))
    (not : ∀ e, motive e → motive (.not e))
    (test : ∀ t, motive (.test t)) (e : Expr S) : motive e :=
  @Expr.rec S motive (fun es => ∀ e ∈ es, motive e) parameter constant member project compare call
    and or not test (by simp) (fun _ _ he hes => by simpa using ⟨he, hes⟩) e

/-- Which expressions about the parameter `bound` fit which places. -/
inductive Fits (bound : Parameter S) : Expr S → Place S → Prop where
  /-- The parameter is a row of its type. -/
  | parameter : Fits bound (.parameter bound) (.row bound.entity)
  /-- A projection leads on from a row of its source. -/
  | project {target : Expr S} {p : Projection S} :
      Fits bound target (.row p.source) → Fits bound (.project target p) (.row p.target)
  | constant (v : Value) : Fits bound (.constant v) .value
  /-- A property is read from a row of its owner. -/
  | member {target : Expr S} {m : Member S} :
      Fits bound target (.row m.owner) → Fits bound (.member target m) .value
  | truth (b : Bool) : Fits bound (.constant (.bool b)) .condition
  /-- A single truth value among the properties is a condition. -/
  | flag {target : Expr S} {m : Member S} :
      Fits bound target (.row m.owner) → m.type.isCondition = true →
        Fits bound (.member target m) .condition
  | compare {op : CompareOp} {l r : Expr S} :
      Fits bound l .value → Fits bound r .value → Fits bound (.compare op l r) .condition
  /-- A method is called with as many arguments as it takes. -/
  | call {m : Method} {target : Expr S} {args : List (Expr S)} :
      args.length = m.arity → Fits bound target .value → (∀ e ∈ args, Fits bound e .value) →
        Fits bound (.call m target args) .condition
  | and {l r : Expr S} :
      Fits bound l .condition → Fits bound r .condition → Fits bound (.and l r) .condition
  | or {l r : Expr S} :
      Fits bound l .condition → Fits bound r .condition → Fits bound (.or l r) .condition
  | not {e : Expr S} : Fits bound e .condition → Fits bound (.not e) .condition
  /-- A test is about the parameter itself. -/
  | test {t : OpaqueTest S} : t.subject = bound → Fits bound (.test t) .condition
  | asValue {e : Expr S} : Fits bound e .condition → Fits bound e .value

namespace Fits

variable {bound : Parameter S}

/-! ### Rows -/

theorem parameter_row_iff {p : Parameter S} {t : S.Entity} :
    Fits bound (.parameter p) (.row t) ↔ p = bound ∧ t = bound.entity := by
  constructor
  · intro h
    cases h
    exact ⟨rfl, rfl⟩
  · rintro ⟨rfl, rfl⟩
    exact .parameter

theorem project_row_iff {target : Expr S} {p : Projection S} {t : S.Entity} :
    Fits bound (.project target p) (.row t) ↔ Fits bound target (.row p.source) ∧ t = p.target := by
  constructor
  · intro h
    cases h with
    | project h => exact ⟨h, rfl⟩
  · rintro ⟨h, rfl⟩
    exact .project h

/-! ### Values -/

theorem constant_value (v : Value) : Fits bound (.constant v) .value := .constant v

theorem member_value_iff {target : Expr S} {m : Member S} :
    Fits bound (.member target m) .value ↔ Fits bound target (.row m.owner) := by
  constructor
  · intro h
    cases h with
    | member h => exact h
    | asValue h =>
      cases h with
      | flag h _ => exact h
  · exact .member

theorem not_parameter_value {p : Parameter S} : ¬Fits bound (.parameter p) .value := by
  intro h
  cases h with
  | asValue h => cases h

theorem not_project_value {target : Expr S} {p : Projection S} :
    ¬Fits bound (.project target p) .value := by
  intro h
  cases h with
  | asValue h => cases h

/-! ### Conditions -/

theorem constant_condition_iff {v : Value} :
    Fits bound (.constant v) .condition ↔ ∃ b, v = .bool b := by
  constructor
  · intro h
    cases h with
    | truth b => exact ⟨b, rfl⟩
  · rintro ⟨b, rfl⟩
    exact .truth b

theorem member_condition_iff {target : Expr S} {m : Member S} :
    Fits bound (.member target m) .condition ↔
      Fits bound target (.row m.owner) ∧ m.type.isCondition = true := by
  constructor
  · intro h
    cases h with
    | flag h hm => exact ⟨h, hm⟩
  · rintro ⟨h, hm⟩
    exact .flag h hm

theorem compare_condition_iff {op : CompareOp} {l r : Expr S} :
    Fits bound (.compare op l r) .condition ↔ Fits bound l .value ∧ Fits bound r .value := by
  constructor
  · intro h
    cases h with
    | compare hl hr => exact ⟨hl, hr⟩
  · rintro ⟨hl, hr⟩
    exact .compare hl hr

theorem call_condition_iff {m : Method} {target : Expr S} {args : List (Expr S)} :
    Fits bound (.call m target args) .condition ↔
      args.length = m.arity ∧ Fits bound target .value ∧ ∀ e ∈ args, Fits bound e .value := by
  constructor
  · intro h
    cases h with
    | call hn ht ha => exact ⟨hn, ht, ha⟩
  · rintro ⟨hn, ht, ha⟩
    exact .call hn ht ha

theorem and_condition_iff {l r : Expr S} :
    Fits bound (.and l r) .condition ↔ Fits bound l .condition ∧ Fits bound r .condition := by
  constructor
  · intro h
    cases h with
    | and hl hr => exact ⟨hl, hr⟩
  · rintro ⟨hl, hr⟩
    exact .and hl hr

theorem or_condition_iff {l r : Expr S} :
    Fits bound (.or l r) .condition ↔ Fits bound l .condition ∧ Fits bound r .condition := by
  constructor
  · intro h
    cases h with
    | or hl hr => exact ⟨hl, hr⟩
  · rintro ⟨hl, hr⟩
    exact .or hl hr

theorem not_condition_iff {e : Expr S} :
    Fits bound (.not e) .condition ↔ Fits bound e .condition := by
  constructor
  · intro h
    cases h with
    | not h => exact h
  · exact .not

theorem test_condition_iff {t : OpaqueTest S} :
    Fits bound (.test t) .condition ↔ t.subject = bound := by
  constructor
  · intro h
    cases h with
    | test h => exact h
  · exact .test

/-- The negation of a condition is a condition, whether or not a negation is taken away. -/
theorem negate {e : Expr S} (h : Fits bound e .condition) : Fits bound e.negate .condition := by
  unfold Expr.negate
  split
  · exact not_condition_iff.mp h
  · exact .not h

/-- A condition by its outermost node fits the place of a value only as a condition. -/
theorem value_iff {e : Expr S} (hc : ∀ v, e ≠ .constant v) (hm : ∀ target m, e ≠ .member target m) :
    Fits bound e .value ↔ Fits bound e .condition := by
  constructor
  · intro h
    cases h with
    | constant v => exact absurd rfl (hc v)
    | member h => exact absurd rfl (hm _ _)
    | asValue h => exact h
  · exact .asValue

end Fits

end Expr

end EntityQuery

import EntityQuery.Predicate.Tree
import EntityQuery.Proofs.Expr.Denotation
import EntityQuery.Proofs.Expr.Places

/-!
# What compiles, and to what

The compiler accepts an expression in a place exactly if it fits the place, and the code that it makes
answers at every row with what the expression denotes there (`compileSubject_eq_ok_iff`,
`compileValue_eq_ok_iff`, `compileCondition_eq_ok_iff`; for trees `Tree.compile_eq_ok_iff_fits`).

The steps of the compiler may each fail, so each is inverted once: an operator compiles exactly if its
operands do, and its code is the operator applied to theirs. The induction over expressions then has
one lemma a node.
-/

namespace EntityQuery

/-- A step followed by another succeeds if the step does, and the other on its result. -/
theorem bind_eq_ok_iff {α β : Type} {r : Result α} {f : α → Result β} {b : β} :
    (r >>= f) = .ok b ↔ ∃ a, r = .ok a ∧ f a = .ok b := by
  cases r with
  | error e => simp [bind, Except.bind]
  | ok a => simp [bind, Except.bind]

theorem map_eq_ok_iff {α β : Type} {r : Result α} {f : α → β} {b : β} :
    f <$> r = .ok b ↔ ∃ a, r = .ok a ∧ f a = b := by
  cases r with
  | error e => simp [Functor.map, Except.map]
  | ok a => simp [Functor.map, Except.map]

theorem mapError_eq_ok_iff {α : Type} {r : Result α} {f : QueryError → QueryError} {a : α} :
    r.mapError f = .ok a ↔ r = .ok a := by
  cases r with
  | error e => exact ⟨nofun, nofun⟩
  | ok b => rfl

variable {S : Schema}

/-! ### Operators -/

namespace ConditionCode

theorem ofCompare_eq_ok_iff {op : CompareOp} {l r : Result (ValueCode S)} {f : ConditionCode S} :
    ofCompare op l r = .ok f ↔
      ∃ g h, l = .ok g ∧ r = .ok h ∧ (fun x => op.holds (g x) (h x)) = f := by
  simp only [ofCompare, bind_eq_ok_iff, Except.ok.injEq]
  constructor
  · rintro ⟨g, hg, h, hh, rfl⟩
    exact ⟨g, h, hg, hh, rfl⟩
  · rintro ⟨g, h, hg, hh, rfl⟩
    exact ⟨g, hg, h, hh, rfl⟩

theorem ofCall_eq_ok_iff {m : Method} {n : Nat} {t : Result (ValueCode S)}
    {args : Result (List (ValueCode S))} {f : ConditionCode S} :
    ofCall m n t args = .ok f ↔
      n = m.arity ∧ ∃ g hs, t = .ok g ∧ args = .ok hs ∧
        (fun x => m.holds (g x) ((hs.head?.map fun h => h x).getD .null)) = f := by
  unfold ofCall
  split
  · simp_all
  · rename_i hn
    have hn : n = m.arity := Decidable.not_not.mp hn
    simp only [bind_eq_ok_iff, Except.ok.injEq, hn, true_and]
    constructor
    · rintro ⟨g, hg, hs, hhs, rfl⟩
      exact ⟨g, hs, hg, hhs, rfl⟩
    · rintro ⟨g, hs, hg, hhs, rfl⟩
      exact ⟨g, hg, hs, hhs, rfl⟩

theorem ofAnd_eq_ok_iff {l r : Result (ConditionCode S)} {f : ConditionCode S} :
    ofAnd l r = .ok f ↔ ∃ g h, l = .ok g ∧ r = .ok h ∧ (fun x => g x && h x) = f := by
  simp only [ofAnd, bind_eq_ok_iff, Except.ok.injEq]
  constructor
  · rintro ⟨g, hg, h, hh, rfl⟩
    exact ⟨g, h, hg, hh, rfl⟩
  · rintro ⟨g, h, hg, hh, rfl⟩
    exact ⟨g, hg, h, hh, rfl⟩

theorem ofOr_eq_ok_iff {l r : Result (ConditionCode S)} {f : ConditionCode S} :
    ofOr l r = .ok f ↔ ∃ g h, l = .ok g ∧ r = .ok h ∧ (fun x => g x || h x) = f := by
  simp only [ofOr, bind_eq_ok_iff, Except.ok.injEq]
  constructor
  · rintro ⟨g, hg, h, hh, rfl⟩
    exact ⟨g, h, hg, hh, rfl⟩
  · rintro ⟨g, h, hg, hh, rfl⟩
    exact ⟨g, hg, h, hh, rfl⟩

theorem ofNot_eq_ok_iff {r : Result (ConditionCode S)} {f : ConditionCode S} :
    ofNot r = .ok f ↔ ∃ g, r = .ok g ∧ (fun x => !g x) = f := by
  simp only [ofNot, bind_eq_ok_iff, Except.ok.injEq]

theorem ofTest_eq_ok_iff {bound : Parameter S} {t : OpaqueTest S} {f : ConditionCode S} :
    ofTest bound t = .ok f ↔ t.subject = bound ∧ t.holds = f := by
  unfold ofTest
  split <;> simp_all

theorem ofMember_eq_ok_iff {m : Member S} {r : Result (ValueCode S)} {f : ConditionCode S} :
    ofMember m r = .ok f ↔
      m.type.isCondition = true ∧ ∃ g, r = .ok g ∧ (fun x => g x == .bool true) = f := by
  unfold ofMember
  split <;> simp_all [bind_eq_ok_iff]

end ConditionCode

namespace Expr

open ConditionCode

variable {bound : Parameter S}

/-! ### Rows -/

/-- An entity expression compiles if it fits the place of a row, to the way to the row it denotes. -/
theorem compileSubject_eq_ok_iff {e : Expr S} {σ : Subject S} :
    compileSubject bound e = .ok σ ↔ Fits bound e (.row σ.entity) ∧ σ.locate = fun x => e.locate x := by
  induction e using Expr.induct generalizing σ with
  | parameter p =>
    simp only [compileSubject, Fits.parameter_row_iff]
    split
    · rename_i h
      subst h
      cases σ
      simp only [Except.ok.injEq, Subject.mk.injEq, true_and]
      exact and_congr eq_comm eq_comm
    · simp_all
  | project target p ih =>
    simp only [compileSubject, bind_eq_ok_iff, ih, Fits.project_row_iff]
    constructor
    · rintro ⟨τ, ⟨hτ, hl⟩, h⟩
      split at h
      · rename_i he
        obtain rfl := Except.ok.inj h
        exact ⟨⟨he ▸ hτ, rfl⟩, by simp [hl]⟩
      · cases h
    · rintro ⟨⟨hτ, he⟩, hl⟩
      refine ⟨⟨p.source, fun x => target.locate x⟩, ⟨hτ, rfl⟩, ?_⟩
      cases σ
      simp_all
  | constant | member | compare | call | and | or | not | test =>
    simp only [compileSubject, reduceCtorEq, false_iff]
    rintro ⟨h, -⟩
    cases h

/-- A property compiles if its target fits the place of a row of its owner. -/
theorem compileMember_eq_ok_iff {target : Expr S} {m : Member S} {f : ValueCode S} :
    compileMember bound target m = .ok f ↔
      Fits bound target (.row m.owner) ∧ f = fun x => read x target m := by
  simp only [compileMember, bind_eq_ok_iff, compileSubject_eq_ok_iff]
  constructor
  · rintro ⟨τ, ⟨hτ, hl⟩, h⟩
    split at h
    · rename_i he
      obtain rfl := Except.ok.inj h
      exact ⟨he ▸ hτ, by simp [hl, read]⟩
    · cases h
  · rintro ⟨hτ, rfl⟩
    exact ⟨⟨m.owner, fun x => target.locate x⟩, ⟨hτ, rfl⟩, by simp [read]⟩

/-! ### Values and conditions -/

/-- In the place of a value, an expression compiles if it fits, to what it denotes. -/
def CompilesValue (bound : Parameter S) (e : Expr S) : Prop :=
  ∀ f, compileValue bound e = .ok f ↔ Fits bound e .value ∧ f = fun x => e.valueAt x

/-- In the place of a condition, an expression compiles if it fits, to whether it holds. -/
def CompilesCondition (bound : Parameter S) (e : Expr S) : Prop :=
  ∀ f, compileCondition bound e = .ok f ↔ Fits bound e .condition ∧ f = fun x => e.holdsAt x

theorem valueAt_eq_bool {e : Expr S} (h : e.isConditionNode = true) (x : S.AnyRow) :
    e.valueAt x = .bool (e.holdsAt x) := by
  cases e with
  | parameter | constant | member | project => cases h
  | compare | call | and | or | not | test => rw [holdsAt, valueAt, Value.isTrue_bool]

theorem CompilesCondition.value {e : Expr S} (he : e.isConditionNode = true)
    (h : CompilesCondition bound e) : CompilesValue bound e := by
  intro f
  have hv : Fits bound e .value ↔ Fits bound e .condition := Fits.value_iff
    (fun v hv => by rw [hv] at he; cases he) (fun _ _ hm => by rw [hm] at he; cases he)
  rw [compileValue_eq he, map_eq_ok_iff, hv]
  constructor
  · rintro ⟨g, hg, rfl⟩
    obtain ⟨hf, rfl⟩ := (h g).mp hg
    exact ⟨hf, funext fun x => (valueAt_eq_bool he x).symm⟩
  · rintro ⟨hf, rfl⟩
    exact ⟨_, (h _).mpr ⟨hf, rfl⟩, funext fun x => (valueAt_eq_bool he x).symm⟩

/-- The arguments of a call compile if each of them fits, and the first one decides the call. -/
theorem compileValues_eq_ok {es : List (Expr S)} (hes : ∀ e ∈ es, CompilesValue bound e) :
    (∀ fs, compileValues bound es = .ok fs → (∀ e ∈ es, Fits bound e .value) ∧
      ∀ x, (fs.head?.map fun f => f x).getD .null = firstAt x es) ∧
    ((∀ e ∈ es, Fits bound e .value) → ∃ fs, compileValues bound es = .ok fs) := by
  induction es with
  | nil =>
    refine ⟨fun fs h => ?_, fun _ => ⟨[], by rw [compileValues]⟩⟩
    rw [compileValues] at h
    cases h
    exact ⟨fun _ he => absurd he List.not_mem_nil, fun x => by simp [firstAt]⟩
  | cons e rest ih =>
    obtain ⟨ih₁, ih₂⟩ := ih fun e he => hes e (List.mem_cons_of_mem _ he)
    have he := hes e List.mem_cons_self
    refine ⟨fun fs h => ?_, fun h => ?_⟩
    · simp only [compileValues, bind_eq_ok_iff, Except.ok.injEq] at h
      obtain ⟨g, hg, gs, hgs, rfl⟩ := h
      obtain ⟨hf, rfl⟩ := (he g).mp hg
      exact ⟨List.forall_mem_cons.mpr ⟨hf, (ih₁ gs hgs).1⟩, fun x => by simp [firstAt]⟩
    · obtain ⟨hf, hfs⟩ := List.forall_mem_cons.mp h
      obtain ⟨gs, hgs⟩ := ih₂ hfs
      refine ⟨(fun x => e.valueAt x) :: gs, ?_⟩
      rw [compileValues, (he _).mpr ⟨hf, rfl⟩, hgs]
      rfl

theorem compilesCondition_compare {op : CompareOp} {l r : Expr S} (hl : CompilesValue bound l)
    (hr : CompilesValue bound r) : CompilesCondition bound (.compare op l r) := by
  intro f
  rw [compileCondition, ofCompare_eq_ok_iff, Fits.compare_condition_iff]
  constructor
  · rintro ⟨g, h, hg, hh, rfl⟩
    obtain ⟨hfl, rfl⟩ := (hl g).mp hg
    obtain ⟨hfr, rfl⟩ := (hr h).mp hh
    exact ⟨⟨hfl, hfr⟩, by simp⟩
  · rintro ⟨⟨hfl, hfr⟩, rfl⟩
    exact ⟨_, _, (hl _).mpr ⟨hfl, rfl⟩, (hr _).mpr ⟨hfr, rfl⟩, by simp⟩

theorem compilesCondition_call {m : Method} {target : Expr S} {args : List (Expr S)}
    (ht : CompilesValue bound target) (ha : ∀ e ∈ args, CompilesValue bound e) :
    CompilesCondition bound (.call m target args) := by
  intro f
  obtain ⟨ha₁, ha₂⟩ := compileValues_eq_ok ha
  rw [compileCondition, ofCall_eq_ok_iff, Fits.call_condition_iff]
  constructor
  · rintro ⟨hn, g, hs, hg, hhs, rfl⟩
    obtain ⟨hft, rfl⟩ := (ht g).mp hg
    obtain ⟨hfa, hfirst⟩ := ha₁ hs hhs
    exact ⟨⟨hn, hft, hfa⟩, by simp [holdsAt, valueAt, hfirst]⟩
  · rintro ⟨⟨hn, hft, hfa⟩, rfl⟩
    obtain ⟨hs, hhs⟩ := ha₂ hfa
    exact ⟨hn, _, hs, (ht _).mpr ⟨hft, rfl⟩, hhs, by simp [holdsAt, valueAt, (ha₁ hs hhs).2]⟩

theorem compilesCondition_and {l r : Expr S} (hl : CompilesCondition bound l)
    (hr : CompilesCondition bound r) : CompilesCondition bound (.and l r) := by
  intro f
  rw [compileCondition, ofAnd_eq_ok_iff, Fits.and_condition_iff]
  constructor
  · rintro ⟨g, h, hg, hh, rfl⟩
    obtain ⟨hfl, rfl⟩ := (hl g).mp hg
    obtain ⟨hfr, rfl⟩ := (hr h).mp hh
    exact ⟨⟨hfl, hfr⟩, by simp⟩
  · rintro ⟨⟨hfl, hfr⟩, rfl⟩
    exact ⟨_, _, (hl _).mpr ⟨hfl, rfl⟩, (hr _).mpr ⟨hfr, rfl⟩, by simp⟩

theorem compilesCondition_or {l r : Expr S} (hl : CompilesCondition bound l)
    (hr : CompilesCondition bound r) : CompilesCondition bound (.or l r) := by
  intro f
  rw [compileCondition, ofOr_eq_ok_iff, Fits.or_condition_iff]
  constructor
  · rintro ⟨g, h, hg, hh, rfl⟩
    obtain ⟨hfl, rfl⟩ := (hl g).mp hg
    obtain ⟨hfr, rfl⟩ := (hr h).mp hh
    exact ⟨⟨hfl, hfr⟩, by simp⟩
  · rintro ⟨⟨hfl, hfr⟩, rfl⟩
    exact ⟨_, _, (hl _).mpr ⟨hfl, rfl⟩, (hr _).mpr ⟨hfr, rfl⟩, by simp⟩

theorem compilesCondition_not {e : Expr S} (h : CompilesCondition bound e) :
    CompilesCondition bound (.not e) := by
  intro f
  rw [compileCondition, ofNot_eq_ok_iff, Fits.not_condition_iff]
  constructor
  · rintro ⟨g, hg, rfl⟩
    obtain ⟨hf, rfl⟩ := (h g).mp hg
    exact ⟨hf, by simp⟩
  · rintro ⟨hf, rfl⟩
    exact ⟨_, (h _).mpr ⟨hf, rfl⟩, by simp⟩

theorem compilesCondition_test (t : OpaqueTest S) : CompilesCondition bound (.test t) := by
  intro f
  rw [compileCondition, ofTest_eq_ok_iff, Fits.test_condition_iff]
  exact and_congr_right fun _ => ⟨fun h => by simp [← h], fun h => by simp [h]⟩

theorem compilesCondition_constant (v : Value) : CompilesCondition bound (.constant v) := by
  intro f
  rw [Fits.constant_condition_iff]
  cases v with
  | bool b => simp [compileCondition, holdsAt, eq_comm]
  | null | int | decimal | string | dateTime | uuid | list => simp [compileCondition]

theorem compilesCondition_member (target : Expr S) (m : Member S) :
    CompilesCondition bound (.member target m) := by
  intro f
  rw [compileCondition, ofMember_eq_ok_iff, Fits.member_condition_iff]
  constructor
  · rintro ⟨hm, g, hg, rfl⟩
    obtain ⟨ht, rfl⟩ := compileMember_eq_ok_iff.mp hg
    exact ⟨⟨ht, hm⟩, by simp [holdsAt, Value.beq_true]⟩
  · rintro ⟨⟨ht, hm⟩, rfl⟩
    exact ⟨hm, _, compileMember_eq_ok_iff.mpr ⟨ht, rfl⟩, by simp [holdsAt, Value.beq_true]⟩

theorem compiles (e : Expr S) : CompilesValue bound e ∧ CompilesCondition bound e := by
  induction e using Expr.induct with
  | parameter p =>
    refine ⟨fun f => ?_, fun f => ?_⟩
    · simp [compileValue, Fits.not_parameter_value]
    · simp only [compileCondition, reduceCtorEq, false_iff]
      rintro ⟨h, -⟩
      cases h
  | project target p =>
    refine ⟨fun f => ?_, fun f => ?_⟩
    · simp [compileValue, Fits.not_project_value]
    · simp only [compileCondition, reduceCtorEq, false_iff]
      rintro ⟨h, -⟩
      cases h
  | constant v =>
    refine ⟨fun f => ?_, compilesCondition_constant v⟩
    simp [compileValue, Fits.constant_value, eq_comm]
  | member target m =>
    refine ⟨fun f => ?_, compilesCondition_member target m⟩
    rw [compileValue, compileMember_eq_ok_iff, Fits.member_value_iff]
    simp
  | compare op l r ihl ihr =>
    have h : CompilesCondition bound (.compare op l r) := compilesCondition_compare ihl.1 ihr.1
    exact ⟨h.value rfl, h⟩
  | call m target args iht iha =>
    have h : CompilesCondition bound (.call m target args) :=
      compilesCondition_call iht.1 fun e he => (iha e he).1
    exact ⟨h.value rfl, h⟩
  | and l r ihl ihr =>
    have h := compilesCondition_and ihl.2 ihr.2
    exact ⟨h.value rfl, h⟩
  | or l r ihl ihr =>
    have h := compilesCondition_or ihl.2 ihr.2
    exact ⟨h.value rfl, h⟩
  | not e ih =>
    have h := compilesCondition_not ih.2
    exact ⟨h.value rfl, h⟩
  | test t =>
    have h : CompilesCondition bound (.test t) := compilesCondition_test t
    exact ⟨h.value rfl, h⟩

theorem compileValue_eq_ok_iff {e : Expr S} {f : ValueCode S} :
    compileValue bound e = .ok f ↔ Fits bound e .value ∧ f = fun x => e.valueAt x :=
  (compiles e).1 f

theorem compileCondition_eq_ok_iff {e : Expr S} {f : ConditionCode S} :
    compileCondition bound e = .ok f ↔ Fits bound e .condition ∧ f = fun x => e.holdsAt x :=
  (compiles e).2 f

end Expr

/-! ### Trees -/

namespace Tree

variable {t : S.Entity} {tree : Tree S t}

/-- A tree compiles if its body fits the place of a condition, to the function that says where the body
holds. -/
theorem compile_eq_ok_iff_fits {f : ConditionCode S} :
    tree.compile = .ok f ↔
      tree.body.Fits tree.parameter .condition ∧ f = fun x => tree.body.holdsAt x := by
  rw [compile_eq_ok_iff, Expr.compileCondition_eq_ok_iff]

theorem compile_eq_ok (h : tree.body.Fits tree.parameter .condition) :
    tree.compile = .ok fun x => tree.body.holdsAt x :=
  compile_eq_ok_iff_fits.mpr ⟨h, rfl⟩

theorem holds_eq_ok (h : tree.body.Fits tree.parameter .condition) (r : S.Row t) :
    tree.holds r = .ok (tree.body.holdsAt ⟨t, r⟩) := by
  rw [holds, compile_eq_ok h]
  rfl

end Tree

end EntityQuery

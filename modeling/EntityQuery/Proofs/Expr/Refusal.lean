import EntityQuery.Predicate.Cache
import EntityQuery.Proofs.Expr.Compilation

/-!
# What is refused

The compiler looks at an expression from the outside to the inside and gives up at the first part that does not
fit. Whichever part that is, the tree is at fault and not the request or the library: every error of every step
has the code of a malformed tree (`BlamesTree`, `Expr.blamesTree`).

So a tree has one of two outcomes. It fits the place of a condition and is compiled, or it does not and is
refused as malformed (`Tree.compileNew_accepts_fits`).
-/

namespace EntityQuery

/-- If the step fails, the tree is malformed. -/
def BlamesTree {α : Type} (r : Result α) : Prop := ∀ e, r = .error e → e.code = .invalidTree

namespace BlamesTree

variable {α β : Type} {r : Result α}

theorem ok (a : α) : BlamesTree (.ok a : Result α) := fun _ h => nomatch h

theorem error {e : QueryError} (h : e.code = .invalidTree) : BlamesTree (.error e : Result α) := by
  rintro e' h'
  obtain rfl := Except.error.inj h'
  exact h

theorem bind {f : α → Result β} (h : BlamesTree r) (hf : ∀ a, BlamesTree (f a)) : BlamesTree (r >>= f) := by
  cases r with
  | error e =>
    rintro e' h'
    obtain rfl : e = e' := Except.error.inj h'
    exact h e rfl
  | ok a => exact hf a

theorem map (h : BlamesTree r) (f : α → β) : BlamesTree (f <$> r) := by
  cases r with
  | error e =>
    rintro e' h'
    obtain rfl : e = e' := Except.error.inj h'
    exact h e rfl
  | ok a => exact ok (f a)

/-- A check in front of a step. -/
theorem check {c : Prop} [Decidable c] {s : Result α} (h : BlamesTree r) (h' : BlamesTree s) :
    BlamesTree (if c then r else s) := by
  split
  · exact h
  · exact h'

end BlamesTree

variable {S : Schema}

/-! ### Operators -/

namespace ConditionCode

theorem ofCompare_blamesTree {op : CompareOp} {l r : Result (ValueCode S)} (hl : BlamesTree l)
    (hr : BlamesTree r) : BlamesTree (ofCompare op l r) :=
  hl.bind fun _ => hr.bind fun _ => .ok _

theorem ofCall_blamesTree {m : Method} {n : Nat} {target : Result (ValueCode S)}
    {args : Result (List (ValueCode S))} (ht : BlamesTree target) (ha : BlamesTree args) :
    BlamesTree (ofCall m n target args) :=
  .check (.error rfl) (ht.bind fun _ => ha.bind fun _ => .ok _)

theorem ofAnd_blamesTree {l r : Result (ConditionCode S)} (hl : BlamesTree l) (hr : BlamesTree r) :
    BlamesTree (ofAnd l r) :=
  hl.bind fun _ => hr.bind fun _ => .ok _

theorem ofOr_blamesTree {l r : Result (ConditionCode S)} (hl : BlamesTree l) (hr : BlamesTree r) :
    BlamesTree (ofOr l r) :=
  hl.bind fun _ => hr.bind fun _ => .ok _

theorem ofNot_blamesTree {f : Result (ConditionCode S)} (h : BlamesTree f) : BlamesTree (ofNot f) :=
  h.bind fun _ => .ok _

theorem ofTest_blamesTree (bound : Parameter S) (t : OpaqueTest S) : BlamesTree (ofTest bound t) :=
  .check (.ok _) (.error rfl)

theorem ofMember_blamesTree {m : Member S} {f : Result (ValueCode S)} (h : BlamesTree f) :
    BlamesTree (ofMember m f) :=
  .check (h.bind fun _ => .ok _) (.error rfl)

end ConditionCode

/-! ### Expressions -/

namespace Expr

open ConditionCode

variable {bound : Parameter S}

theorem compileSubject_blamesTree (e : Expr S) : BlamesTree (compileSubject bound e) := by
  induction e using Expr.induct with
  | parameter p =>
    rw [compileSubject]
    exact .check (.ok _) (.error rfl)
  | project target p ih =>
    rw [compileSubject]
    exact ih.bind fun _ => .check (.ok _) (.error rfl)
  | constant | member | compare | call | and | or | not | test =>
    rw [compileSubject]
    · exact .error rfl
    all_goals simp

theorem compileMember_blamesTree (target : Expr S) (m : Member S) :
    BlamesTree (compileMember bound target m) :=
  (compileSubject_blamesTree target).bind fun _ => .check (.ok _) (.error rfl)

theorem compileValues_blamesTree {es : List (Expr S)} (h : ∀ e ∈ es, BlamesTree (compileValue bound e)) :
    BlamesTree (compileValues bound es) := by
  induction es with
  | nil =>
    rw [compileValues]
    exact .ok _
  | cons e rest ih =>
    obtain ⟨he, hrest⟩ := List.forall_mem_cons.mp h
    rw [compileValues]
    exact he.bind fun _ => (ih hrest).bind fun _ => .ok _

/-- Only a truth value is a condition among the constants. -/
theorem compileCondition_constant_blamesTree (v : Value) :
    BlamesTree (compileCondition bound (.constant v)) := by
  cases v with
  | bool b =>
    rw [compileCondition]
    exact .ok _
  | null | int | decimal | string | dateTime | uuid | list =>
    rw [compileCondition]
    · exact .error rfl
    · simp

/-- What is refused as a condition by its outermost node is refused as a value for the same reason. -/
theorem compileValue_blamesTree {e : Expr S} (he : e.isConditionNode = true)
    (h : BlamesTree (compileCondition bound e)) : BlamesTree (compileValue bound e) := by
  rw [compileValue_eq he]
  exact h.map asValue

/-- Whatever is refused, in the place of a value or of a condition, is a malformed tree. -/
theorem blamesTree (e : Expr S) :
    BlamesTree (compileValue bound e) ∧ BlamesTree (compileCondition bound e) := by
  induction e using Expr.induct with
  | parameter p =>
    rw [compileValue, compileCondition]
    exact ⟨.error rfl, .error rfl⟩
  | project target p =>
    rw [compileValue, compileCondition]
    exact ⟨.error rfl, .error rfl⟩
  | constant v =>
    rw [compileValue]
    exact ⟨.ok _, compileCondition_constant_blamesTree v⟩
  | member target m =>
    have hmember : BlamesTree (compileMember bound target m) := compileMember_blamesTree target m
    rw [compileValue, compileCondition]
    exact ⟨hmember, ofMember_blamesTree hmember⟩
  | compare op l r ihl ihr =>
    have h : BlamesTree (compileCondition bound (.compare op l r)) := by
      rw [compileCondition]
      exact ofCompare_blamesTree ihl.1 ihr.1
    exact ⟨compileValue_blamesTree rfl h, h⟩
  | call m target args iht iha =>
    have h : BlamesTree (compileCondition bound (.call m target args)) := by
      rw [compileCondition]
      exact ofCall_blamesTree iht.1 (compileValues_blamesTree fun e he => (iha e he).1)
    exact ⟨compileValue_blamesTree rfl h, h⟩
  | and l r ihl ihr =>
    have h : BlamesTree (compileCondition bound (.and l r)) := by
      rw [compileCondition]
      exact ofAnd_blamesTree ihl.2 ihr.2
    exact ⟨compileValue_blamesTree rfl h, h⟩
  | or l r ihl ihr =>
    have h : BlamesTree (compileCondition bound (.or l r)) := by
      rw [compileCondition]
      exact ofOr_blamesTree ihl.2 ihr.2
    exact ⟨compileValue_blamesTree rfl h, h⟩
  | not e ih =>
    have h : BlamesTree (compileCondition bound (.not e)) := by
      rw [compileCondition]
      exact ofNot_blamesTree ih.2
    exact ⟨compileValue_blamesTree rfl h, h⟩
  | test t =>
    have h : BlamesTree (compileCondition bound (.test t)) := by
      rw [compileCondition]
      exact ofTest_blamesTree bound t
    exact ⟨compileValue_blamesTree rfl h, h⟩

end Expr

/-! ### Trees -/

namespace Tree

variable {t : S.Entity}

/-- An error keeps its code when it is put on the tree. -/
theorem compile_blamesTree (tree : Tree S t) : BlamesTree tree.compile := by
  rintro e h
  cases hbody : tree.body.compileCondition tree.parameter with
  | error e' =>
    rw [compile, hbody] at h
    obtain rfl := Except.error.inj h
    exact (Expr.blamesTree tree.body).2 e' hbody
  | ok f =>
    rw [compile, hbody] at h
    cases h

/-- A tree fits and is compiled, or it does not and is malformed. -/
theorem compileNew_cases (tree : Tree S t) (s : Supply) :
    (∃ p, (tree.compileNew s).1 = .ok p ∧ tree.body.Fits tree.parameter .condition) ∨
      ∃ e, (tree.compileNew s).1 = .error e ∧ e.code = .invalidTree ∧
        ¬tree.body.Fits tree.parameter .condition := by
  cases hcompile : tree.compile with
  | ok f =>
    have hnew : ∃ p, (tree.compileNew s).1 = .ok p := by
      simp only [compileNew, hcompile]
      exact ⟨_, rfl⟩
    obtain ⟨p, hp⟩ := hnew
    exact .inl ⟨p, hp, (compile_eq_ok_iff_fits.mp hcompile).1⟩
  | error e =>
    have hnew : (tree.compileNew s).1 = .error e := by
      simp only [compileNew, hcompile]
      rfl
    have hfits : ¬tree.body.Fits tree.parameter .condition := by
      intro h
      rw [compile_eq_ok h] at hcompile
      cases hcompile
    exact .inr ⟨e, hnew, tree.compile_blamesTree e hcompile, hfits⟩

/-- A new predicate is made of a tree exactly if its body fits the place of a condition about its parameter.
Every other tree is refused as malformed. -/
theorem compileNew_accepts_fits (tree : Tree S t) (s : Supply) :
    ((∃ p, (tree.compileNew s).1 = .ok p) ↔ tree.body.Fits tree.parameter .condition) ∧
      ((∃ e, (tree.compileNew s).1 = .error e ∧ e.code = .invalidTree) ↔
        ¬tree.body.Fits tree.parameter .condition) := by
  rcases tree.compileNew_cases s with ⟨p, hp, hfits⟩ | ⟨e, he, hcode, hfits⟩
  · refine ⟨iff_of_true ⟨p, hp⟩ hfits, iff_of_false ?_ (not_not_intro hfits)⟩
    rintro ⟨e, he, -⟩
    rw [hp] at he
    cases he
  · refine ⟨iff_of_false ?_ hfits, iff_of_true ⟨e, he, hcode⟩ hfits⟩
    rintro ⟨p, hp⟩
    rw [he] at hp
    cases hp

end Tree

end EntityQuery

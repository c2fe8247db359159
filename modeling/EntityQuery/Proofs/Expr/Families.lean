import EntityQuery.Proofs.Expr.Operands
import EntityQuery.Proofs.Expr.Safety
import EntityQuery.Proofs.Value.Exactness

/-!
# Comparisons of unrelated families

Of most expressions the family of their values is known before any row is looked at (`Expr.knownFamily?`), and
so it is known of two operands whether their values can be in an order (`Expr.MayCompare`). The compiler does not
ask: it accepts a comparison of any two values (`Tree.not_strict_of_compileNew`). A comparison that may not be made
comes to the same truth value at all rows, which is false, and for inequality true. To write this truth value in
its place gives a tree that makes no such comparisons and holds of the same rows (`Tree.compileNew_settles`).
-/

namespace EntityQuery

variable {S : Schema}

instance (f g : Family) : Decidable (f.Comparable g) := inferInstanceAs (Decidable (_ ∨ _))

namespace Expr

/-! ### What is known of operands -/

/-- The family of the values of an expression, as far as it is known before any row is looked at. Null and
collections are of none. -/
def knownFamily? : Expr S → Option Family
  | .parameter _ | .project .. => none
  | .constant v => v.family?
  | .member _ m => if m.type.isCollection then none else some m.type.family
  | .compare .. | .call .. | .and .. | .or .. | .not _ | .test _ => some .boolean

/-- The expression is the constant null. -/
def isNull : Expr S → Bool
  | .constant v => v.isNull
  | _ => false

/-- One operand is the constant null, or the families of both are known and can be compared. -/
def MayCompare (l r : Expr S) : Prop :=
  l.isNull = true ∨ r.isNull = true ∨ ∃ f ∈ l.knownFamily?, ∃ g ∈ r.knownFamily?, f.Comparable g

instance (l r : Expr S) : Decidable (l.MayCompare r) := inferInstanceAs (Decidable (_ ∨ _ ∨ _))

/-- Every comparison in the expression may be made. -/
def Strict (e : Expr S) : Prop := ∀ op l r, (compare op l r).Within e → l.MayCompare r

/-- Whatever the expression reads at a row is null or of the family that is known of it. -/
def AsDeclared (x : S.AnyRow) (e : Expr S) : Prop :=
  ∀ target m, (member target m).Within e →
    read x target m = .null ∨ (read x target m).family? = (member target m).knownFamily?

variable {bound : Parameter S} {x : S.AnyRow} {e d l r : Expr S} {op : CompareOp}

theorem part_iff_mem_operands : Part d e ↔ d ∈ e.operands := by
  constructor
  · intro h
    cases h <;> simp [operands, *]
  · intro h
    cases e with
    | parameter | constant | test => cases h
    | member | project | not =>
      obtain rfl := List.mem_singleton.mp h
      constructor
    | compare =>
      rcases List.mem_pair.mp h with rfl | rfl
      · exact .compareLeft
      · exact .compareRight
    | and =>
      rcases List.mem_pair.mp h with rfl | rfl
      · exact .andLeft
      · exact .andRight
    | or =>
      rcases List.mem_pair.mp h with rfl | rfl
      · exact .orLeft
      · exact .orRight
    | call =>
      rcases List.mem_cons.mp h with rfl | h
      · exact .target
      · exact .argument h

theorem within_iff : Within d e ↔ d = e ∨ ∃ c ∈ e.operands, Within d c := by
  rw [Within, Relation.ReflTransGen.cases_tail_iff]
  simp only [part_iff_mem_operands]
  exact or_congr eq_comm (exists_congr fun c => and_comm)

theorem AsDeclared.within (h : AsDeclared x e) (hd : Within d e) : AsDeclared x d :=
  fun target m hm => h target m (hm.trans hd)

/-- A value is null or of the family that is known of it. -/
theorem AsDeclared.family?_valueAt (h : AsDeclared x e) :
    e.valueAt x = .null ∨ (e.valueAt x).family? = e.knownFamily? := by
  cases e with
  | parameter | project => exact .inl rfl
  | constant | compare | call | and | or | not | test => exact .inr rfl
  | member target m => exact h target m .refl

/-- If a comparison may not be made, the values of its operands cannot be compared at any row. -/
theorem not_comparable_of_not_mayCompare (hl : AsDeclared x l) (hr : AsDeclared x r) (h : ¬l.MayCompare r) :
    ¬(l.valueAt x).Comparable (r.valueAt x) := by
  intro hvalues
  obtain ⟨f, g, hf, hg, hfg⟩ := Value.comparable_iff_family.mp hvalues
  have hknown : ∀ {e : Expr S} {f}, AsDeclared x e → (e.valueAt x).family? = some f → f ∈ e.knownFamily? := by
    intro e f he hf
    rcases he.family?_valueAt with hnull | hfamily
    · rw [hnull] at hf
      cases hf
    · exact hfamily.symm.trans hf
  exact h (.inr (.inr ⟨f, hknown hl hf, g, hknown hr hg, hfg⟩))

theorem holds_of_not_mayCompare (hl : AsDeclared x l) (hr : AsDeclared x r) (h : ¬l.MayCompare r) :
    op.holds (l.valueAt x) (r.valueAt x) = (op == .ne) := by
  rw [Bool.eq_iff_iff, beq_iff_eq]
  exact CompareOp.holds_iff_of_not_comparable (not_comparable_of_not_mayCompare hl hr h) op

/-! ### Writing down the outcome -/

mutual

/-- The expression with its truth value in the place of every comparison that may not be made. -/
def settle : Expr S → Expr S
  | .parameter p => .parameter p
  | .constant v => .constant v
  | .member target m => .member (settle target) m
  | .project target p => .project (settle target) p
  | .compare op l r => if l.MayCompare r then .compare op (settle l) (settle r) else .ofBool (op == .ne)
  | .call m target args => .call m (settle target) (settles args)
  | .and l r => .and (settle l) (settle r)
  | .or l r => .or (settle l) (settle r)
  | .not inner => .not (settle inner)
  | .test t => .test t

/-- The arguments of a call with a truth value in the place of every comparison that may not be made. -/
def settles : List (Expr S) → List (Expr S)
  | [] => []
  | e :: rest => settle e :: settles rest

end

theorem settles_eq_map (es : List (Expr S)) : settles es = es.map settle := by
  induction es with
  | nil => rfl
  | cons e rest ih => rw [settles, ih, List.map_cons]

/-- A comparison is settled, or its operands are. -/
theorem settle_compare (op : CompareOp) (l r : Expr S) :
    (l.MayCompare r ∧ settle (.compare op l r) = .compare op l.settle r.settle) ∨
      (¬l.MayCompare r ∧ settle (.compare op l r) = .ofBool (op == .ne)) := by
  by_cases h : l.MayCompare r
  · exact .inl ⟨h, by rw [settle, if_pos h]⟩
  · exact .inr ⟨h, by rw [settle, if_neg h]⟩

theorem knownFamily?_settle (e : Expr S) : e.settle.knownFamily? = e.knownFamily? := by
  cases e with
  | compare op l r => rcases settle_compare op l r with ⟨-, h⟩ | ⟨-, h⟩ <;> rw [h] <;> rfl
  | parameter | constant | member | project | call | and | or | not | test => simp only [settle, knownFamily?]

theorem isNull_settle (e : Expr S) : e.settle.isNull = e.isNull := by
  cases e with
  | compare op l r => rcases settle_compare op l r with ⟨-, h⟩ | ⟨-, h⟩ <;> rw [h] <;> rfl
  | parameter | constant | member | project | call | and | or | not | test => simp only [settle, isNull]

theorem mayCompare_settle : l.settle.MayCompare r.settle ↔ l.MayCompare r := by
  simp only [MayCompare, knownFamily?_settle, isNull_settle]

theorem locate_settle (x : S.AnyRow) (e : Expr S) : e.settle.locate x = e.locate x := by
  induction e using Expr.induct with
  | project target p ih => simp only [settle, locate, ih]
  | compare op l r => rcases settle_compare op l r with ⟨-, h⟩ | ⟨-, h⟩ <;> rw [h] <;> rfl
  | parameter | constant | member | call | and | or | not | test => simp only [settle, locate]

theorem read_settle (target : Expr S) (m : Member S) : read x target.settle m = read x target m := by
  rw [read, read, locate_settle]

/-- To settle an expression does not change its value at a row that is as it is declared. -/
theorem valueAt_settle (h : AsDeclared x e) : e.settle.valueAt x = e.valueAt x := by
  induction e using Expr.induct with
  | parameter | constant | test => simp only [settle]
  | project => simp only [settle, valueAt_project]
  | member target m => rw [settle, valueAt_member, valueAt_member, read_settle]
  | compare op l r ihl ihr =>
    have hl : AsDeclared x l := h.within (.single .compareLeft)
    have hr : AsDeclared x r := h.within (.single .compareRight)
    rcases settle_compare op l r with ⟨-, hsettle⟩ | ⟨hmay, hsettle⟩
    · rw [hsettle, valueAt_compare, valueAt_compare, ihl hl, ihr hr]
    · rw [hsettle, ofBool, valueAt_constant, valueAt_compare, holds_of_not_mayCompare hl hr hmay]
  | call m target args iht iha =>
    have hargs : firstAt x (settles args) = firstAt x args := by
      cases args with
      | nil => rfl
      | cons a rest => exact iha a List.mem_cons_self (h.within (.single (.argument List.mem_cons_self)))
    rw [settle, valueAt_call, valueAt_call, iht (h.within (.single .target)), hargs]
  | and l r ihl ihr =>
    rw [settle, valueAt_and, valueAt_and, ihl (h.within (.single .andLeft)), ihr (h.within (.single .andRight))]
  | or l r ihl ihr =>
    rw [settle, valueAt_or, valueAt_or, ihl (h.within (.single .orLeft)), ihr (h.within (.single .orRight))]
  | not e ih => rw [settle, valueAt_not, valueAt_not, ih (h.within (.single .not))]

/-- What fits a place fits it when it is settled. -/
theorem Fits.settle {place : Place S} (h : Fits bound e place) : Fits bound e.settle place := by
  induction h with
  | parameter => exact .parameter
  | constant v => exact .constant v
  | truth b => exact .truth b
  | project _ ih => exact .project ih
  | member _ ih => exact .member ih
  | flag _ hm ih => exact .flag ih hm
  | @compare op l r _ _ ihl ihr =>
    rcases settle_compare op l r with ⟨-, h⟩ | ⟨-, h⟩
    · exact h ▸ .compare ihl ihr
    · exact h ▸ .truth _
  | @call m target args hn _ _ iht iha =>
    have hcount : (settles args).length = m.arity := by rw [settles_eq_map, List.length_map, hn]
    have hargs : ∀ a ∈ settles args, Fits bound a .value := by
      rw [settles_eq_map]
      exact List.forall_mem_map.mpr iha
    exact .call hcount iht hargs
  | and _ _ ihl ihr => exact .and ihl ihr
  | or _ _ ihl ihr => exact .or ihl ihr
  | not _ ih => exact .not ih
  | test hs => exact .test hs
  | asValue _ ih => exact .asValue ih

/-- The operands of what is settled are settled. -/
theorem exists_of_mem_operands_settle (h : d ∈ e.settle.operands) : ∃ c ∈ e.operands, c.settle = d := by
  have hoperands : e.settle.operands = e.operands.map settle ∨ e.settle.operands = [] := by
    cases e with
    | compare op l r =>
      rcases settle_compare op l r with ⟨-, h⟩ | ⟨-, h⟩
      · exact .inl (by rw [h]; rfl)
      · exact .inr (by rw [h]; rfl)
    | parameter | constant | member | project | call | and | or | not | test =>
      exact .inl (by simp [settle, operands, settles_eq_map])
  rcases hoperands with hmap | hnil
  · rwa [hmap, List.mem_map] at h
  · rw [hnil] at h
    cases h

/-- In what is settled, every comparison may be made. -/
theorem strict_settle (e : Expr S) : e.settle.Strict := by
  induction e using operands_induct with
  | step e ih =>
    intro op l r hwithin
    rcases within_iff.mp hwithin with heq | ⟨d, hd, hwithin⟩
    · cases e with
      | compare op' l' r' =>
        rcases settle_compare op' l' r' with ⟨hmay, h⟩ | ⟨-, h⟩
        · rw [h] at heq
          cases heq
          exact mayCompare_settle.mpr hmay
        · rw [h] at heq
          cases heq
      | parameter | constant | member | project | call | and | or | not | test =>
        rw [settle] at heq
        cases heq
    · obtain ⟨c, hc, rfl⟩ := exists_of_mem_operands_settle hd
      exact ih c hc op l r hwithin

/-- A comparison in the place of anything is one in the place of a value. -/
theorem Fits.compare_value {place : Place S} (h : Fits bound (.compare op l r) place) :
    Fits bound (.compare op l r) .value := by
  cases h with
  | compare hl hr => exact .asValue (.compare hl hr)
  | asValue h => exact .asValue h

end Expr

/-! ### Trees -/

namespace Tree

variable {t : S.Entity} {tree : Tree S t} {s : Supply} {p : Predicate S t}

/-- The tree with a truth value in the place of every comparison that may not be made. -/
def settled (tree : Tree S t) : Tree S t := { tree with body := tree.body.settle }

/-- A tree whose body fits the place of a condition compiles. -/
theorem exists_compileNew (h : tree.body.Fits tree.parameter .condition) (s : Supply) :
    ∃ p, (tree.compileNew s).1 = .ok p := by
  simp only [compileNew, compile_eq_ok h]
  exact ⟨_, rfl⟩

/-- Two values may be compared by a tree whatever their families are. In a tree that compiles, a comparison that
may not be made denotes the same at every row that is as it is declared: the truth if it is for inequality, and
otherwise not. The tree with these truth values written in compiles, too. It makes only comparisons that may be
made, and holds of the same rows. -/
theorem compileNew_settles (tree : Tree S t) (s : Supply) :
    (∀ op l r, tree.body = .compare op l r → l.Fits tree.parameter .value → r.Fits tree.parameter .value →
      ∃ p, (tree.compileNew s).1 = .ok p) ∧
    ∀ p, (tree.compileNew s).1 = .ok p →
      (∀ op l r, (Expr.compare op l r).Within tree.body → ¬l.MayCompare r →
        ∀ row, tree.body.AsDeclared ⟨t, row⟩ →
          (Expr.compare op l r).Denotes tree.parameter ⟨t, row⟩ (.bool (op == .ne))) ∧
      tree.settled.body.Strict ∧
      ∃ q, (tree.settled.compileNew s).1 = .ok q ∧
        ∀ row, tree.body.AsDeclared ⟨t, row⟩ → q.holds row = p.holds row := by
  refine ⟨fun op l r hbody hl hr => exists_compileNew (hbody ▸ .compare hl hr) s, fun p hp => ?_⟩
  obtain ⟨hfits, hholds⟩ := fits_of_compileNew hp
  refine ⟨fun op l r hwithin hmay row hrow => ?_, Expr.strict_settle tree.body, ?_⟩
  · obtain ⟨_, hplace⟩ := hfits.within hwithin
    have hdenotes := hplace.compare_value.denotes (x := ⟨t, row⟩) tree.entity_eq.symm
    have hcompare := hrow.within hwithin
    rwa [Expr.valueAt_compare, Expr.holds_of_not_mayCompare (hcompare.within (.single .compareLeft))
      (hcompare.within (.single .compareRight)) hmay] at hdenotes
  · have hsettled : tree.settled.body.Fits tree.settled.parameter .condition := hfits.settle
    obtain ⟨q, hq⟩ := exists_compileNew hsettled s
    refine ⟨q, hq, fun row hrow => ?_⟩
    rw [hholds, (fits_of_compileNew hq).2, Expr.holdsAt, Expr.holdsAt, settled, Expr.valueAt_settle hrow]

theorem numbered_asDeclared (op : CompareOp) (row : People.schema.Row People.person) :
    (People.numbered op).body.AsDeclared ⟨People.person, row⟩ := by
  intro target m hm
  rcases Expr.within_iff.mp hm with h | ⟨c, hc, hm⟩
  · cases h
  rcases List.mem_pair.mp hc with rfl | rfl
  · rcases Expr.within_iff.mp hm with h | ⟨c, hc, hm⟩
    · cases h
      exact .inr rfl
    · obtain rfl := List.mem_singleton.mp hc
      rcases Expr.within_iff.mp hm with h | ⟨_, hc, -⟩
      · cases h
      · cases hc
  · rcases Expr.within_iff.mp hm with h | ⟨_, hc, -⟩
    · cases h
    · cases hc

/-- Nobody has a number for a name, and everybody has another name than a number. -/
theorem compileNew_settles_numbered : ∀ op, ∃ p, ((People.numbered op).compileNew {}).1 = .ok p ∧
    ∀ row, p.holds row = (op == .ne) := by
  intro op
  obtain ⟨hvalues, hok⟩ := compileNew_settles (People.numbered op) {}
  obtain ⟨p, hp⟩ := hvalues op _ _ rfl (.member .parameter) (.constant _)
  refine ⟨p, hp, fun row => ?_⟩
  have hdenotes := (hok p hp).1 op _ _ .refl (by decide) row (numbered_asDeclared op row)
  exact ((fits_of_compileNew hp).2 row).trans (congrArg Value.isTrue hdenotes.valueAt_eq)

/-- It is not so that a tree makes only comparisons that may be made, if it compiles. -/
theorem not_strict_of_compileNew :
    ¬∀ (tree : Tree People.schema People.person) (p : Predicate People.schema People.person),
      (tree.compileNew {}).1 = .ok p → tree.body.Strict := by
  intro h
  have hmay := h (People.numbered .eq) _ rfl .eq _ _ .refl
  revert hmay
  decide

end Tree

end EntityQuery

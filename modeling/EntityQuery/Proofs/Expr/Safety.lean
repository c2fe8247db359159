import EntityQuery.Predicate.Cache
import EntityQuery.Proofs.Expr.Compilation
import EntityQuery.Proofs.People
import Mathlib.Logic.Relation

/-!
# Type safety

Compiled code passes rows around without their types, and asks for the type wherever it looks into a row: a
property is null in a row of the wrong type, a projection leads nowhere from it, and a test fails on it. None
of these ways out is ever taken. The meaning of an expression is defined here without them, as a relation that
relates an expression to a value only if every row is of the type that is asked for (`Expr.Denotes`). An
expression that fits its place denotes exactly one value (`Expr.Fits.denotes`, `Expr.Denotes.valueAt_eq`), all
of its parts fit their places (`Expr.Fits.within`), and wherever they ask for the type of a row they get it
(`Expr.Fits.downcasts`). So a compiled predicate holds of a row exactly if its tree denotes the truth there
(`Tree.compileNew_safe`).
-/

namespace EntityQuery

variable {S : Schema}

namespace Expr

variable {bound : Parameter S} {x y : S.AnyRow} {e d : Expr S}

/-! ### Denotations -/

/-- The entity expression leads from the row `x` of the parameter to the row. -/
inductive LeadsTo (bound : Parameter S) (x : S.AnyRow) : Expr S → S.AnyRow → Prop where
  | parameter : LeadsTo bound x (.parameter bound) x
  | project {target : Expr S} {p : Projection S} {row : S.Row p.source} :
    LeadsTo bound x target ⟨p.source, row⟩ → LeadsTo bound x (.project target p) ⟨p.target, p.map row⟩

/-- The expression denotes the value if the parameter stands for the row `x`. -/
inductive Denotes (bound : Parameter S) (x : S.AnyRow) : Expr S → Value → Prop where
  | constant (v : Value) : Denotes bound x (.constant v) v
  | member {target : Expr S} {m : Member S} {row : S.Row m.owner} :
    LeadsTo bound x target ⟨m.owner, row⟩ → Denotes bound x (.member target m) (m.read row)
  | compare {op : CompareOp} {l r : Expr S} {v w : Value} :
    Denotes bound x l v → Denotes bound x r w → Denotes bound x (.compare op l r) (.bool (op.holds v w))
  | isDefault {target : Expr S} {v : Value} :
    Denotes bound x target v → Denotes bound x (.call .isDefault target []) (.bool v.isDefault)
  | call {m : Method} {target arg : Expr S} {v w : Value} : m.arity = 1 →
    Denotes bound x target v → Denotes bound x arg w →
      Denotes bound x (.call m target [arg]) (.bool (m.holds v w))
  /-- What is no truth value, such as a property that is null, counts as false. -/
  | and {l r : Expr S} {v w : Value} : Denotes bound x l v → Denotes bound x r w →
    Denotes bound x (.and l r) (.bool (v.isTrue && w.isTrue))
  | or {l r : Expr S} {v w : Value} : Denotes bound x l v → Denotes bound x r w →
    Denotes bound x (.or l r) (.bool (v.isTrue || w.isTrue))
  | not {e : Expr S} {v : Value} : Denotes bound x e v → Denotes bound x (.not e) (.bool !v.isTrue)
  /-- A test is about a row of its own type. -/
  | test {u : OpaqueTest S} {row : S.Row u.entity} : u.subject = bound → x = ⟨u.entity, row⟩ →
    Denotes bound x (.test u) (.bool (u.test row))

/-- A conjunction denotes a truth value. -/
theorem Denotes.exists_eq_bool_of_and {l r : Expr S} {v : Value} (h : Denotes bound x (.and l r) v) :
    ∃ b, v = .bool b := by
  cases h
  exact ⟨_, rfl⟩

/-- The row that an expression leads to is the one that is located. -/
theorem LeadsTo.locate_eq (h : LeadsTo bound x e y) : e.locate x = some y := by
  induction h with
  | parameter => rfl
  | project _ ih => simp [ih, Projection.apply?]

/-- Denotations are unique: there is at most one, and it is what the expression evaluates to. -/
theorem Denotes.valueAt_eq {v : Value} (h : Denotes bound x e v) : e.valueAt x = v := by
  induction h with
  | constant v => rfl
  | member h => simp [read, h.locate_eq, Member.readAny]
  | compare _ _ ihl ihr => rw [valueAt_compare, ihl, ihr]
  | isDefault _ ih => rw [valueAt_call, ih, Method.holds]
  | call _ _ _ iht iha => rw [valueAt_call, firstAt_cons, iht, iha]
  | and _ _ ihl ihr => rw [valueAt_and, ihl, ihr]
  | or _ _ ihl ihr => rw [valueAt_or, ihl, ihr]
  | not _ ih => rw [valueAt_not, ih]
  | test _ hx =>
    subst hx
    simp [valueAt_test, OpaqueTest.holds]

/-! ### Rows have the types that are asked for -/

theorem exists_eq_mk {u : S.Entity} (h : x.entity = u) : ∃ row, x = ⟨u, row⟩ := by
  subst h
  exact ⟨x.row, rfl⟩

/-- An expression in the place of a row leads to a row of the type of the place. -/
theorem Fits.leadsTo {u : S.Entity} (h : Fits bound e (.row u)) (hx : x.entity = bound.entity) :
    ∃ row, LeadsTo bound x e ⟨u, row⟩ := by
  induction e using Expr.induct generalizing u with
  | parameter p =>
    obtain ⟨rfl, rfl⟩ := Fits.parameter_row_iff.mp h
    obtain ⟨row, rfl⟩ := exists_eq_mk hx
    exact ⟨row, .parameter⟩
  | project target p ih =>
    obtain ⟨htarget, rfl⟩ := Fits.project_row_iff.mp h
    obtain ⟨row, hrow⟩ := ih htarget
    exact ⟨p.map row, .project hrow⟩
  | constant | member | compare | call | and | or | not | test => cases h

/-- A test of the parameter is about rows of the parameter's type. -/
theorem exists_eq_of_subject {u : OpaqueTest S} (hu : u.subject = bound) (hx : x.entity = bound.entity) :
    ∃ row, x = ⟨u.entity, row⟩ :=
  exists_eq_mk (hx.trans (hu ▸ u.entity_eq))

/-- A call with as many arguments as its method takes, which are none or one. -/
theorem denotes_call {m : Method} {target : Expr S} {args : List (Expr S)} (hcount : args.length = m.arity)
    (ht : Denotes bound x target (target.valueAt x)) (ha : ∀ a ∈ args, Denotes bound x a (a.valueAt x)) :
    Denotes bound x (.call m target args) ((call m target args).valueAt x) := by
  cases m with
  | isDefault =>
    obtain rfl := List.eq_nil_of_length_eq_zero hcount
    exact .isDefault ht
  | contains | startsWith | endsWith | textEquals | overlaps | setEquals =>
    obtain ⟨a, rfl⟩ := List.length_eq_one_iff.mp hcount
    exact .call rfl ht (ha a (List.mem_singleton_self a))

/-- A condition by its outermost node is one in the place of a value. -/
theorem Fits.condition (h : Fits bound e .value) (hnode : e.isConditionNode = true) :
    Fits bound e .condition := by
  cases h with
  | constant | member => cases hnode
  | asValue h => exact h

/-- An expression that fits the place of a value denotes what it evaluates to. -/
theorem Fits.denotes (h : Fits bound e .value) (hx : x.entity = bound.entity) :
    Denotes bound x e (e.valueAt x) := by
  induction e using Expr.induct with
  | parameter p => exact absurd h Fits.not_parameter_value
  | project target p => exact absurd h Fits.not_project_value
  | constant v => exact .constant v
  | member target m =>
    obtain ⟨row, hrow⟩ := (Fits.member_value_iff.mp h).leadsTo hx
    have hread : Denotes bound x (.member target m) (m.read row) := .member hrow
    rwa [hread.valueAt_eq]
  | compare op l r ihl ihr =>
    obtain ⟨hl, hr⟩ := Fits.compare_condition_iff.mp (h.condition rfl)
    exact .compare (ihl hl) (ihr hr)
  | call m target args iht iha =>
    obtain ⟨hcount, ht, ha⟩ := Fits.call_condition_iff.mp (h.condition rfl)
    exact denotes_call hcount (iht ht) fun a hmem => iha a hmem (ha a hmem)
  | and l r ihl ihr =>
    obtain ⟨hl, hr⟩ := Fits.and_condition_iff.mp (h.condition rfl)
    exact .and (ihl hl.asValue) (ihr hr.asValue)
  | or l r ihl ihr =>
    obtain ⟨hl, hr⟩ := Fits.or_condition_iff.mp (h.condition rfl)
    exact .or (ihl hl.asValue) (ihr hr.asValue)
  | not e ih =>
    have he := Fits.not_condition_iff.mp (h.condition rfl)
    exact .not (ih he.asValue)
  | test u =>
    have hu := Fits.test_condition_iff.mp (h.condition rfl)
    obtain ⟨row, hrow⟩ := exists_eq_of_subject hu hx
    have htest : Denotes bound x (.test u) (.bool (u.test row)) := .test hu hrow
    rwa [htest.valueAt_eq]

/-! ### Parts -/

/-- An expression is an operand of another one. -/
inductive Part : Expr S → Expr S → Prop where
  | member {target : Expr S} {m : Member S} : Part target (.member target m)
  | project {target : Expr S} {p : Projection S} : Part target (.project target p)
  | compareLeft {op : CompareOp} {l r : Expr S} : Part l (.compare op l r)
  | compareRight {op : CompareOp} {l r : Expr S} : Part r (.compare op l r)
  | target {m : Method} {target : Expr S} {args : List (Expr S)} : Part target (.call m target args)
  | argument {m : Method} {target a : Expr S} {args : List (Expr S)} : a ∈ args → Part a (.call m target args)
  | andLeft {l r : Expr S} : Part l (.and l r)
  | andRight {l r : Expr S} : Part r (.and l r)
  | orLeft {l r : Expr S} : Part l (.or l r)
  | orRight {l r : Expr S} : Part r (.or l r)
  | not {e : Expr S} : Part e (.not e)

/-- An expression is another one or stands somewhere in it. -/
def Within : Expr S → Expr S → Prop := Relation.ReflTransGen Part

/-- An operand of an expression that fits its place fits its own. -/
theorem Fits.part {place : Place S} (h : Fits bound e place) (hd : Part d e) : ∃ place', Fits bound d place' := by
  induction h with
  | parameter | constant | truth | test => cases hd
  | project h | member h | flag h | not h =>
    cases hd
    exact ⟨_, h⟩
  | compare hl hr | and hl hr | or hl hr =>
    cases hd
    · exact ⟨_, hl⟩
    · exact ⟨_, hr⟩
  | call _ ht ha =>
    cases hd with
    | target => exact ⟨_, ht⟩
    | argument hmem => exact ⟨_, ha _ hmem⟩
  | asValue _ ih => exact ih hd

/-- Whatever stands in an expression that fits its place fits a place. -/
theorem Fits.within {place : Place S} (h : Fits bound e place) (hd : Within d e) :
    ∃ place', Fits bound d place' := by
  induction hd using Relation.ReflTransGen.head_induction_on with
  | refl => exact ⟨place, h⟩
  | head hpart _ ih =>
    obtain ⟨_, hfits⟩ := ih
    exact hfits.part hpart

/-! ### Downcasts -/

/-- The node at the top of an expression finds a row of the type that it asks for: the code of its target
locates a row, and the row is of the owner's or the source's type; a test finds one in the parameter. -/
def Downcasts (bound : Parameter S) (x : S.AnyRow) : Expr S → Prop
  | .member target m =>
    ∃ σ y row, target.compileSubject bound = .ok σ ∧ σ.locate x = some y ∧ y.as? m.owner = some row
  | .project target p =>
    ∃ σ y row, target.compileSubject bound = .ok σ ∧ σ.locate x = some y ∧ y.as? p.source = some row
  | .test u => ∃ row, x.as? u.entity = some row
  | _ => True

/-- The code of an expression in the place of a row locates a row of the type of the place. -/
theorem Fits.located {u : S.Entity} (h : Fits bound e (.row u)) (hx : x.entity = bound.entity) :
    ∃ σ y row, e.compileSubject bound = .ok σ ∧ σ.locate x = some y ∧ y.as? u = some row := by
  obtain ⟨row, hrow⟩ := h.leadsTo hx
  exact ⟨⟨u, fun x => e.locate x⟩, ⟨u, row⟩, row, compileSubject_eq_ok_iff.mpr ⟨h, rfl⟩, hrow.locate_eq,
    Schema.AnyRow.as?_mk u row⟩

/-- An expression that fits a place finds rows of the types that it asks for. -/
theorem Fits.downcasts {place : Place S} (h : Fits bound e place) (hx : x.entity = bound.entity) :
    Downcasts bound x e := by
  induction h with
  | parameter | constant | truth | compare | call | and | or | not => trivial
  | project h | member h | flag h => exact h.located hx
  | test hu =>
    obtain ⟨row, rfl⟩ := exists_eq_of_subject hu hx
    exact ⟨row, Schema.AnyRow.as?_mk _ row⟩
  | asValue _ ih => exact ih

end Expr

/-! ### Trees -/

namespace Tree

variable {t : S.Entity} {tree : Tree S t} {s : Supply} {p : Predicate S t}

/-- A tree with a new predicate fits the place of a condition, and the predicate holds where its body does. -/
theorem fits_of_compileNew (h : (tree.compileNew s).1 = .ok p) :
    tree.body.Fits tree.parameter .condition ∧ ∀ r, p.holds r = tree.body.holdsAt ⟨t, r⟩ := by
  cases hcode : tree.compile with
  | error e =>
    simp only [compileNew, hcode] at h
    cases h
  | ok code =>
    simp only [compileNew, hcode] at h
    obtain rfl := Except.ok.inj h
    obtain ⟨hfits, rfl⟩ := compile_eq_ok_iff_fits.mp hcode
    exact ⟨hfits, fun _ => rfl⟩

/-- A tree that compiles denotes exactly one value at each row, and the predicate that it is compiled to holds
of the row if that is the truth and not otherwise. Whatever part of the tree looks into a row finds one of the
type that it asks for. -/
theorem compileNew_safe (h : (tree.compileNew s).1 = .ok p) (r : S.Row t) :
    (∃ v, (∀ w, tree.body.Denotes tree.parameter ⟨t, r⟩ w ↔ w = v) ∧ p.holds r = v.isTrue) ∧
      ∀ d : Expr S, d.Within tree.body → d.Downcasts tree.parameter ⟨t, r⟩ := by
  obtain ⟨hfits, hholds⟩ := fits_of_compileNew h
  have hentity : (⟨t, r⟩ : S.AnyRow).entity = tree.parameter.entity := tree.entity_eq.symm
  have hdenotes := hfits.asValue.denotes hentity
  refine ⟨⟨tree.body.valueAt ⟨t, r⟩, fun w => ⟨fun hw => hw.valueAt_eq.symm, ?_⟩, hholds r⟩, fun d hd => ?_⟩
  · rintro rfl
    exact hdenotes
  · obtain ⟨_, hplace⟩ := hfits.within hd
    exact hplace.downcasts hentity

/-- Dan is no adult and has a percent sign in the name, by which the predicate holds. Cleo works for a listed company,
but is an adult, so it does not. The company is found by way of the employer, whoever the person is. -/
theorem compileNew_safe_candidate : ∃ p : Predicate People.schema People.person,
    (People.candidate.compileNew {}).1 = .ok p ∧
      (p.holds People.dan = true ∧
        People.candidate.body.Denotes People.x ⟨People.person, People.dan⟩ (.bool true)) ∧
      (p.holds People.cleo = false ∧
        People.candidate.body.Denotes People.x ⟨People.person, People.cleo⟩ (.bool false)) ∧
      ∀ r, (Expr.project (.parameter People.x) People.employer).Downcasts People.x ⟨People.person, r⟩ := by
  obtain ⟨p, hp⟩ : ∃ p, (People.candidate.compileNew {}).1 = .ok p := ⟨_, rfl⟩
  have hdan : p.holds People.dan = true := by
    obtain rfl := Except.ok.inj hp
    decide +kernel
  have hcleo : p.holds People.cleo = false := by
    obtain rfl := Except.ok.inj hp
    decide +kernel
  have hdenotes : ∀ r, People.candidate.body.Denotes People.x ⟨People.person, r⟩ (.bool (p.holds r)) := by
    intro r
    obtain ⟨⟨v, hv, hholds⟩, -⟩ := compileNew_safe hp r
    obtain ⟨b, rfl⟩ := Expr.Denotes.exists_eq_bool_of_and ((hv v).mpr rfl)
    exact (hv _).mpr (congrArg Value.bool hholds)
  have hproject : (Expr.project (.parameter People.x) People.employer).Within People.candidate.body :=
    .head .member (.head .orRight (.head .andRight .refl))
  exact ⟨p, hp, ⟨hdan, hdan ▸ hdenotes _⟩, ⟨hcleo, hcleo ▸ hdenotes _⟩, fun r => (compileNew_safe hp r).2 _ hproject⟩

end Tree

end EntityQuery

import EntityQuery.Proofs.People
import EntityQuery.Proofs.Request.Meaning
import EntityQuery.Proofs.Sql.Meaning
import EntityQuery.Proofs.Sql.Rendering

/-!
# SQL and memory select the same rows

A tree is compiled to a function, and it is rendered to a text. Where null values are read, the function says
no and SQL does not know, and both are negated: what is true in one is to be true in the other, and what is
not true is only to be not true. That is what each node keeps (`Rendered.truth_iff_holdsAt`): the condition is
true, in three-valued logic, exactly where the expression holds.

The columns are to hold what is read from the row, of the family that is declared or null
(`Expr.StoredIn`). What is compared with it is null or of a family that can be compared
(`Expr.Comparable`), unless the database tells values of different families apart by itself.

With what is known of the text and of its placeholders, the text of a tree selects the rows of which the tree
holds (`Sql.render_selects`).
-/

namespace EntityQuery

variable {S : Schema}

theorem PropertyType.family_of_isCondition {t : PropertyType} (h : t.isCondition = true) :
    t.family = .boolean := by
  rw [isCondition, Bool.and_eq_true, beq_iff_eq] at h
  exact h.1

/-! ### Rows in tables -/

namespace Expr

mutual

/-- The properties that an expression reads, each with the entity that it is read from. -/
def reads : Expr S → List (Expr S × Member S)
  | .parameter _ | .constant _ | .test _ => []
  | .member target m => [(target, m)]
  | .project target _ => reads target
  | .compare _ l r | .and l r | .or l r => reads l ++ reads r
  | .call _ target args => reads target ++ readsAll args
  | .not e => reads e

/-- What several operands read. -/
def readsAll : List (Expr S) → List (Expr S × Member S)
  | [] => []
  | e :: rest => reads e ++ readsAll rest

end

/-- The columns hold what an expression reads at a row, and every value is null or of the family that its
property declares. -/
structure StoredIn (columns : Sql.Column → Value) (x : S.AnyRow) (e : Expr S) : Prop where
  column_eq : ∀ q ∈ e.reads, columns (Sql.columnOf q.1 q.2) = q.1.read x q.2
  family_eq : ∀ q ∈ e.reads,
    q.1.read x q.2 = .null ∨ (q.1.read x q.2).family? = some q.2.type.family

/-- The family that is known of a value before it is read. -/
def declared? : Expr S → Option Family
  | .constant v => v.family?
  | .member _ m => some m.type.family
  | _ => none

/-- One of two operands is null, or they are of families that can be compared. -/
def Operands (l r : Expr S) : Prop :=
  l = .constant .null ∨ r = .constant .null ∨
    ∃ f g, l.declared? = some f ∧ r.declared? = some g ∧ f.Comparable g

/-- Whatever is compared is null or of families that can be compared. -/
def Comparable : Expr S → Prop
  | .compare _ l r => Operands l r
  | .call _ target args => ∀ v, .constant v ∈ args → ∀ w ∈ v.members, Operands target (.constant w)
  | .and l r | .or l r => l.Comparable ∧ r.Comparable
  | .not e => e.Comparable
  | _ => True

namespace StoredIn

variable {columns : Sql.Column → Value} {x : S.AnyRow} {e l r : Expr S}

theorem of_reads (h : StoredIn columns x e) {e' : Expr S} (hreads : ∀ q ∈ e'.reads, q ∈ e.reads) :
    StoredIn columns x e' :=
  ⟨fun q hq => h.column_eq q (hreads q hq), fun q hq => h.family_eq q (hreads q hq)⟩

/-- What is stored of an expression is stored of both its operands. -/
theorem operands (h : StoredIn columns x e) (hreads : e.reads = l.reads ++ r.reads) :
    StoredIn columns x l ∧ StoredIn columns x r := by
  refine ⟨h.of_reads fun q hq => ?_, h.of_reads fun q hq => ?_⟩
  · rw [hreads]
    exact List.mem_append_left _ hq
  · rw [hreads]
    exact List.mem_append_right _ hq

theorem compare {op : CompareOp} (h : StoredIn columns x (.compare op l r)) :
    StoredIn columns x l ∧ StoredIn columns x r :=
  h.operands rfl

theorem and (h : StoredIn columns x (.and l r)) : StoredIn columns x l ∧ StoredIn columns x r :=
  h.operands rfl

theorem or (h : StoredIn columns x (.or l r)) : StoredIn columns x l ∧ StoredIn columns x r :=
  h.operands rfl

theorem not (h : StoredIn columns x (.not e)) : StoredIn columns x e :=
  h.of_reads fun _ hq => hq

theorem call {m : Method} {target : Expr S} {args : List (Expr S)}
    (h : StoredIn columns x (.call m target args)) : StoredIn columns x target :=
  h.of_reads fun _ hq => List.mem_append_left _ hq

variable {target : Expr S} {p : Member S} {bound : Parameter S} {c : Sql.Column}

/-- A column holds the value of its property. -/
theorem column (h : StoredIn columns x (.member target p)) (hc : Sql.column bound target p = .ok c) :
    columns c = (Expr.member target p).valueAt x := by
  rw [Sql.column_eq_columnOf hc, valueAt_member]
  exact h.column_eq (target, p) (List.mem_singleton_self _)

theorem member (h : StoredIn columns x (.member target p)) :
    (Expr.member target p).valueAt x = .null ∨
      ((Expr.member target p).valueAt x).family? = some p.type.family := by
  rw [valueAt_member]
  exact h.family_eq (target, p) (List.mem_singleton_self _)

theorem scalar {s : Sql.Scalar} (E : Sql.Engine) (h : StoredIn columns x e)
    (hs : Sql.scalar bound e = .ok s) : s.value E columns = e.valueAt x := by
  rcases Sql.scalar_eq_ok hs with ⟨v, rfl, rfl⟩ | ⟨target, p, c, rfl, hc, rfl⟩
  · rw [valueAt_constant, Sql.Scalar.value]
  · exact h.column hc

/-- A value is null or of the family that is known of it. -/
theorem declared {f : Family} (h : StoredIn columns x e) (hf : e.declared? = some f) :
    e.valueAt x = .null ∨ (e.valueAt x).family? = some f := by
  cases e with
  | constant v =>
    rw [valueAt_constant]
    exact .inr hf
  | member target p =>
    cases hf
    exact h.member
  | parameter | project | compare | call | and | or | not | test => cases hf

/-- Operands that are declared to be comparable have values that are null or can be compared. -/
theorem related (hl : StoredIn columns x l) (hr : StoredIn columns x r) (h : Operands l r) :
    Sql.Engine.Related (l.valueAt x) (r.valueAt x) := by
  rcases h with rfl | rfl | ⟨f, g, hf, hg, hfg⟩
  · rw [valueAt_constant]
    exact .inl rfl
  · rw [valueAt_constant]
    exact .inr (.inl rfl)
  · rcases hl.declared hf with hnull | hf'
    · exact .inl hnull
    rcases hr.declared hg with hnull | hg'
    · exact .inr (.inl hnull)
    exact .inr (.inr (Value.compare?_isSome_iff.mpr ⟨f, g, hf', hg', hfg⟩))

theorem constant (v : Value) : StoredIn columns x (.constant v) := by
  have hreads : ∀ q, q ∉ (Expr.constant v : Expr S).reads := fun _ => List.not_mem_nil
  exact ⟨fun q hq => absurd hq (hreads q), fun q hq => absurd hq (hreads q)⟩

end StoredIn

end Expr

namespace Sql

/-! ### Operators and methods -/

theorem holds_iff_accepts {op : CompareOp} {how : Comparison} (h : comparisonOf op = some how)
    (v w : Value) : op.holds v w = true ↔ ∃ o, v.compare? w = some o ∧ how.accepts o = true := by
  cases op with
  | ne => cases h
  | eq | lt | lte | gt | gte =>
    cases h
    simp only [CompareOp.holds, Value.looseEq]
    rcases v.compare? w with _ | _ | _ | _ <;> simp [Comparison.accepts]

theorem looseEq_iff_accepts (v w : Value) :
    v.looseEq w = true ↔ ∃ o, v.compare? w = some o ∧ Comparison.eq.accepts o = true :=
  holds_iff_accepts (show comparisonOf .eq = some .eq from rfl) v w

/-- A method that is a pattern holds of the texts that match it. -/
theorem holds_iff_matchesLike {m : Method} {mode : CaseMode} {leading trailing : Bool}
    (hm : patternOf m = some (mode, leading, trailing)) (v : Value) (needle : String) :
    m.holds v (.string needle) = true ↔ ∃ s, v = .string s ∧
      matchesLike likeEscape (likePattern leading trailing mode needle).toList
        (mode.fold s.toList) = true := by
  cases m with
  | contains mode' =>
    cases hm
    simp [Method.holds, Method.textTest_iff, Text.hasInfix_iff, matchesLike_contains]
  | startsWith mode' =>
    cases hm
    simp [Method.holds, Method.textTest_iff, List.isPrefixOf_iff_prefix, matchesLike_startsWith]
  | endsWith mode' =>
    cases hm
    simp [Method.holds, Method.textTest_iff, List.isSuffixOf_iff_suffix, matchesLike_endsWith]
  | textEquals | isDefault | overlaps | setEquals => cases hm

/-! ### Texts in a database -/

namespace Engine

variable {E : Engine} {columns : Column → Value} {c : Column} {mode : CaseMode} {v : Value} {t : String}

/-- A value as a method of texts sees it in the database. -/
def fold (E : Engine) (mode : CaseMode) (v : Value) : Value :=
  match mode with
  | .ordinal => v
  | .ignoreCase => E.lower v

theorem value_textScalar : (textScalar mode c).value E columns = E.fold mode (columns c) := by
  cases mode <;> rfl

theorem fold_null : E.fold mode .null = .null := by
  cases mode with
  | ordinal => rfl
  | ignoreCase => exact E.lower_null

theorem fold_string (s : String) : E.fold mode (.string s) = .string (.ofList (mode.fold s.toList)) := by
  cases mode with
  | ordinal => rw [fold, CaseMode.fold, String.ofList_toList]
  | ignoreCase => exact E.lower_string s

theorem TellsApart.fold_string? (h : E.TellsApart) (hv : v.string? = none) (mode : CaseMode) :
    (E.fold mode v).string? = none := by
  cases mode with
  | ordinal => exact hv
  | ignoreCase => exact h.lower_string? v hv

/-- Null, a text, or, if the database tells them apart, any other value. -/
theorem text_cases (h : E.TellsApart ∨ Related v (.string t)) :
    v = .null ∨ (∃ s, v = .string s) ∨ (E.TellsApart ∧ v.string? = none) := by
  cases v with
  | null => exact .inl rfl
  | string s => exact .inr (.inl ⟨s, rfl⟩)
  | bool | int | decimal | dateTime | uuid | list =>
    rcases h with h | h | h | h
    · exact .inr (.inr ⟨h, rfl⟩)
    · cases h
    · cases h
    · cases h

theorem like_fold_iff (h : E.TellsApart ∨ Related v (.string t)) (escape : Char)
    (pattern : String) :
    E.like escape (E.fold mode v) (.string pattern) = some true ↔
      ∃ s, v = .string s ∧ matchesLike escape pattern.toList (mode.fold s.toList) = true := by
  rcases text_cases h with rfl | ⟨s, rfl⟩ | ⟨hE, hv⟩
  · rw [fold_null, E.like_null]
    simp
  · rw [fold_string, E.like_string, String.toList_ofList]
    simp
  · have hne := hE.like_ne escape (E.fold mode v) pattern (hE.fold_string? hv mode)
    have hstring : ∀ s, v ≠ .string s := by
      rintro s rfl
      cases hv
    simp [hne, hstring]

theorem compare_fold_iff (h : E.TellsApart ∨ Related v (.string t)) (u : String) :
    E.compare .eq (E.fold mode v) (.string u) = some true ↔
      ∃ s, v = .string s ∧ mode.fold s.toList = u.toList := by
  rcases text_cases h with rfl | ⟨s, rfl⟩ | ⟨hE, hv⟩
  · rw [fold_null, E.compare_null_left]
    simp
  · have hequal : Value.string (.ofList (mode.fold s.toList)) = .string u ↔
        mode.fold s.toList = u.toList := by
      rw [Value.string.injEq, ← String.toList_inj, String.toList_ofList]
    rw [fold_string, compare_eq_true_iff (.inr (.inr (.inr rfl))), ← looseEq_iff_accepts,
      Value.looseEq_string_iff, ← Value.string.injEq, hequal]
    simp
  · have hincomparable : (E.fold mode v).compare? (.string u) = none := by
      have hfold := hE.fold_string? hv mode
      cases hw : E.fold mode v with
      | string s =>
        rw [hw] at hfold
        cases hfold
      | null | bool | int | decimal | dateTime | uuid | list => rfl
    have hne := hE.compare_ne .eq _ _ hincomparable
    have hstring : ∀ s, v ≠ .string s := by
      rintro s rfl
      cases hv
    simp [hne, hstring]

end Engine

/-! ### Agreement -/

variable {E : Engine} {columns : Column → Value} {x : S.AnyRow} {bound : Parameter S}

/-- Every rendered test for membership lists at least one value. -/
theorem Rendered.listing {e : Expr S} {c : Condition} (h : Rendered bound e c) : c.Listing := by
  induction h with
  | truth | flag | compare | unequal | like | textEquals | isDefault | overlapsNone => exact trivial
  | overlaps _ hv _ => exact hv
  | and _ _ ihl ihr => exact ⟨ihl, ihr⟩
  | or _ _ ihl ihr => exact ⟨ihl, ihr⟩
  | not _ ih => exact ih

theorem truth_compare_iff {a b : Scalar} {v w : Value} (ha : a.value E columns = v)
    (hb : b.value E columns = w) (h : E.TellsApart ∨ Engine.Related v w) (how : Comparison) :
    (Condition.compare how a b).truth E columns = some true ↔
      ∃ o, v.compare? w = some o ∧ how.accepts o = true := by
  rw [Condition.truth, ha, hb]
  exact Engine.compare_eq_true_iff h how

/-- A single truth value is true where it equals the truth. -/
theorem truth_flag_iff {c : Column} {v : Value} (hc : columns c = v)
    (hv : v = .null ∨ v.family? = some .boolean) :
    (Condition.compare .eq (.column c) (.bound (.bool true))).truth E columns = some true ↔
      v.isTrue = true := by
  have hrelated : Engine.Related v (.bool true) := by
    rcases hv with hv | hv
    · exact .inl hv
    · exact .inr (.inr (Value.compare?_isSome_iff.mpr ⟨_, _, hv, rfl, .inl rfl⟩))
  have hcolumn : (Scalar.column c).value E columns = v := hc
  have hbound : (Scalar.bound (.bool true)).value E columns = .bool true := rfl
  rw [truth_compare_iff hcolumn hbound (.inr hrelated), ← looseEq_iff_accepts]
  rcases hv with rfl | hv
  · simp [Value.looseEq_iff, Value.isTrue]
  · cases v with
    | bool b => cases b <;> decide
    | null | int | decimal | string | dateTime | uuid | list => cases hv

/-- A value is a default where it is null or equals what its family starts from. -/
theorem truth_isDefault_iff {c : Column} {v : Value} {f : Family} (hc : columns c = v)
    (hv : v = .null ∨ v.family? = some f) :
    (Condition.nullOr c f.defaultValue).truth E columns = some true ↔ v.isDefault = true := by
  have hdefault : f.defaultValue.family? = some f := by cases f <;> rfl
  have hrelated : Engine.Related v f.defaultValue := by
    rcases hv with hv | hv
    · exact .inl hv
    · exact .inr (.inr (Value.compare?_isSome_iff.mpr ⟨_, _, hv, hdefault, .inl rfl⟩))
  rw [truth_nullOr_iff, hc, Engine.compare_eq_true_iff (.inr hrelated), ← looseEq_iff_accepts,
    Value.isDefault_iff]
  refine or_congr_right ?_
  rcases hv with rfl | hv
  · simp [Value.looseEq_iff, Value.family?]
  · have hlist : v ≠ .list [] := by
      rintro rfl
      cases hv
    simp [hlist, hv]

/-- A single value has a member in common with others where it equals one of them. -/
theorem truth_overlaps_iff {c : Column} {v w : Value} {f : Family} (hc : columns c = v)
    (hv : v = .null ∨ v.family? = some f)
    (hw : E.TellsApart ∨ ∀ u ∈ w.members, Engine.Related v u) :
    (Condition.isIn (.column c) w.members).truth E columns = some true ↔ v.overlaps w = true := by
  have hequal : ∀ u ∈ w.members, (E.compare .eq v u = some true ↔ v.compare? u = some .eq) := by
    intro u hu
    rw [Engine.compare_eq_true_iff (hw.imp_right fun h => h u hu), ← looseEq_iff_accepts, Value.looseEq_iff]
  have hmembers : ∀ u, (∃ y ∈ v.members, y.compare? u = some .eq) ↔ v.compare? u = some .eq := by
    intro u
    rcases hv with rfl | hv
    · simp
    · have hsingle : v.members = [v] := by
        cases v with
        | null | list => cases hv
        | bool | int | decimal | string | dateTime | uuid => rfl
      simp [hsingle]
  rw [Condition.truth, Scalar.value, hc, Engine.isAmong_eq_true_iff, Value.overlaps_iff]
  constructor
  · rintro ⟨u, hu, h⟩
    obtain ⟨y, hy, hyu⟩ := (hmembers u).mpr ((hequal u hu).mp h)
    exact ⟨y, hy, u, hu, hyu⟩
  · rintro ⟨y, hy, u, hu, hyu⟩
    exact ⟨u, hu, (hequal u hu).mpr ((hmembers u).mp ⟨y, hy, hyu⟩)⟩

/-- A constant argument is related to the value that a method is called on. -/
theorem related_argument {m : Method} {target : Expr S} {p : Member S} {v : Value}
    (hx : Expr.StoredIn columns x (.call m (.member target p) [.constant v]))
    (hE : E.TellsApart ∨ Expr.Comparable (.call m (.member target p) [.constant v])) :
    E.TellsApart ∨ ∀ w ∈ v.members, Engine.Related ((Expr.member target p).valueAt x) w := by
  refine hE.imp_right fun h w hw => ?_
  have hrelated := hx.call.related (.constant w) (h v (List.mem_singleton_self _) w hw)
  rwa [Expr.valueAt_constant] at hrelated

/-- What is rendered is true, in three-valued logic, exactly where the expression holds. -/
theorem Rendered.truth_iff_holdsAt {e : Expr S} {c : Condition} (h : Rendered bound e c)
    (hx : e.StoredIn columns x) (hE : E.TellsApart ∨ e.Comparable) :
    c.truth E columns = some true ↔ e.holdsAt x = true := by
  induction h with
  | truth b =>
    rw [Condition.truth, ← Expr.ofBool, Expr.holdsAt_ofBool, Option.some.injEq]
  | flag hm hc =>
    have hvalue := hx.member
    rw [PropertyType.family_of_isCondition hm] at hvalue
    exact truth_flag_iff (hx.column hc) hvalue
  | @compare op how l r a b hop ha hb =>
    have hrelated := hE.imp_right (hx.compare.1.related hx.compare.2)
    rw [Expr.holdsAt_compare, holds_iff_accepts hop]
    exact truth_compare_iff (hx.compare.1.scalar E ha) (hx.compare.2.scalar E hb) hrelated how
  | @unequal l r a b ha hb =>
    have hrelated := hE.imp_right (hx.compare.1.related hx.compare.2)
    have hequal := truth_compare_iff (hx.compare.1.scalar E ha) (hx.compare.2.scalar E hb) hrelated .eq
    rw [truth_notTrue_iff, hequal, ← looseEq_iff_accepts, Expr.holdsAt_compare, CompareOp.holds,
      Bool.not_eq_true', Bool.not_eq_true]
  | @like m mode leading trailing target p c needle hm hc =>
    have hrelated := (related_argument hx hE).imp_right fun h => h _ (List.mem_singleton_self _)
    rw [Condition.truth, Engine.value_textScalar, hx.call.column hc, Engine.like_fold_iff hrelated,
      Expr.holdsAt_call_cons, Expr.valueAt_constant, holds_iff_matchesLike hm]
  | @textEquals mode target p c s hc =>
    have hrelated := (related_argument hx hE).imp_right fun h => h _ (List.mem_singleton_self _)
    rw [Condition.truth, Engine.value_textScalar, hx.call.column hc, Scalar.value,
      Engine.compare_fold_iff hrelated, Expr.holdsAt_call_cons, Expr.valueAt_constant, Method.holds,
      Method.textTest_iff]
    simp
  | isDefault hp hc =>
    rw [Expr.holdsAt_call_nil, Method.holds]
    exact truth_isDefault_iff (hx.call.column hc) hx.call.member
  | overlapsNone hp hv =>
    rw [Condition.truth, Expr.holdsAt_call_cons, Expr.valueAt_constant, Method.holds,
      Value.overlaps_iff, hv]
    simp
  | overlaps hp hv hc =>
    rw [Expr.holdsAt_call_cons, Expr.valueAt_constant, Method.holds]
    exact truth_overlaps_iff (hx.call.column hc) hx.call.member (related_argument hx hE)
  | and _ _ ihl ihr =>
    rw [Condition.truth, Truth.and_eq_true_iff, Expr.holdsAt_and, Bool.and_eq_true,
      ihl hx.and.1 (hE.imp_right And.left), ihr hx.and.2 (hE.imp_right And.right)]
  | or _ _ ihl ihr =>
    rw [Condition.truth, Truth.or_eq_true_iff, Expr.holdsAt_or, Bool.or_eq_true,
      ihl hx.or.1 (hE.imp_right And.left), ihr hx.or.2 (hE.imp_right And.right)]
  | not _ ih =>
    rw [truth_notTrue_iff, ih hx.not hE, Expr.holdsAt_not, Bool.not_eq_true', Bool.not_eq_true]

end Sql

/-! ### People in a table -/

namespace People

/-- The columns of the row of a person. -/
def columnsOf (p : Person) (c : Sql.Column) : Value :=
  if c = ⟨[], "Name"⟩ then .string p.name
  else if c = ⟨[], "Age"⟩ then p.readAge
  else if c = ⟨["Employer"], "Listed"⟩ then p.employer.readListed
  else .null

theorem Person.readAge_eq_null_or (p : Person) : p.readAge = .null ∨ p.readAge.family? = some .integer := by
  unfold readAge
  cases p.age with
  | none => exact .inl rfl
  | some i => exact .inr rfl

theorem candidate_fits : candidate.body.Fits candidate.parameter .condition := by
  have hage : Expr.Fits x (.member (.parameter x) age) .value := .member .parameter
  have hname : Expr.Fits x (.member (.parameter x) name) .value := .member .parameter
  have hlisted : Expr.Fits x (.member (.project (.parameter x) employer) listed) .condition :=
    .flag (.project .parameter) rfl
  have hcall : Expr.Fits x (.call (.contains .ignoreCase) (.member (.parameter x) name)
      [.constant (.string "%")]) .condition := by
    refine .call rfl hname fun e he => ?_
    obtain rfl := List.mem_singleton.mp he
    exact .constant _
  exact .and (.not (.compare hage (.constant _))) (.or hcall hlisted)

theorem candidate_storedIn (p : Person) : candidate.body.StoredIn (columnsOf p) ⟨person, p⟩ := by
  have hreads : candidate.body.reads = [(.parameter x, age), (.parameter x, name),
      (.project (.parameter x) employer, listed)] := by
    simp [candidate, Expr.reads, Expr.readsAll]
  refine ⟨fun q hq => ?_, fun q hq => ?_⟩
  · rw [hreads] at hq
    simp only [List.mem_cons, List.not_mem_nil, or_false] at hq
    rcases hq with rfl | rfl | rfl <;> rfl
  · rw [hreads] at hq
    simp only [List.mem_cons, List.not_mem_nil, or_false] at hq
    rcases hq with rfl | rfl | rfl
    · exact p.readAge_eq_null_or
    · exact .inr rfl
    · exact .inr rfl

end People

/-! ### Selection -/

namespace Sql

variable {E : Engine} {columns : Column → Value}

/-- The text that a tree is rendered to, read by the grammar of the dialect and evaluated with the values
bound to it, is true of the rows for which the compiled function says yes. -/
theorem render_selects {t : S.Entity} {tree : Tree S t} {f : ConditionCode S} {d : Dialect}
    {q : Fragment} {r : S.Row t} (hf : tree.compile = .ok f) (hq : render d tree = .ok q)
    (hr : tree.body.StoredIn columns ⟨t, r⟩) (hE : E.TellsApart ∨ tree.body.Comparable) :
    ∃ e, read d q.sql = some e ∧ (e.eval E columns q.params = .bool true ↔ f ⟨t, r⟩ = true) := by
  obtain ⟨c, hc, rfl⟩ := exists_rendered_of_render hq
  obtain ⟨-, rfl⟩ := Tree.compile_eq_ok_iff_fits.mp hf
  have hvalues : c.values <+: List.drop 0 (Fragment.ofTokens d 0 c.tokens).params := by
    rw [Fragment.ofTokens, boundValues_condition, List.drop_zero]
  refine ⟨c.numbered 0, read_writeTokens d hc.listing, ?_⟩
  rw [eval_numbered hvalues, Truth.toValue_eq_true_iff]
  exact hc.truth_iff_holdsAt hr hE

/-- A person whose age is not known is selected, since no age is at least eighteen. -/
theorem render_selects_candidate : ∃ q f,
    render .postgres People.candidate = .ok q ∧ People.candidate.compile = .ok f ∧
      f ⟨People.person, People.ada⟩ = true ∧ ∃ e, read .postgres q.sql = some e ∧
        (e.eval Engine.standard (People.columnsOf People.ada) q.params = .bool true ↔
          f ⟨People.person, People.ada⟩ = true) :=
  ⟨_, _, rfl, Tree.compile_eq_ok People.candidate_fits, rfl,
    render_selects (Tree.compile_eq_ok People.candidate_fits) rfl
      (People.candidate_storedIn People.ada) (.inl Engine.tellsApart_standard)⟩

end Sql

end EntityQuery

import EntityQuery.Proofs.Expr.Alike
import EntityQuery.Sql.Render

/-!
# Literals and the text of conditions

What is written for a condition does not depend on the values that it binds: their tokens are all the same
when the values are taken away (`Condition.form`). Two expressions that are alike have renderings that are the
same in this sense, or fail with the same code (`outcome_renderCondition`). The proof follows the renderer
step by step: as long as the results of a step look the same, so do the results of what comes after it
(`outcome_bind`).
-/

namespace EntityQuery

variable {S : Schema}

namespace Sql

/-! ### Outcomes -/

/-- What is seen of an outcome: the code of the error, or what `f` says of the result. -/
def outcome {α β : Type} (f : α → β) : Result α → Except ErrorCode β
  | .ok a => .ok (f a)
  | .error e => .error e.code

section Outcomes

variable {α α' β β' γ δ : Type} {f : α → γ} {f' : α' → γ} {g : β → δ} {g' : β' → δ}
  {r : Result α} {r' : Result α'} {k : α → Result β} {k' : α' → Result β'}

/-- Steps that look the same, followed by steps that look the same on what looks the same. -/
theorem outcome_bind (h : outcome f r = outcome f' r')
    (hk : ∀ a a', f a = f' a' → outcome g (k a) = outcome g' (k' a')) :
    outcome g (r >>= k) = outcome g' (r' >>= k') := by
  cases r with
  | error e =>
    cases r' with
    | error e' => exact congrArg Except.error (Except.error.inj h)
    | ok a' => cases h
  | ok a =>
    cases r' with
    | error e' => cases h
    | ok a' => exact hk a a' (Except.ok.inj h)

/-- Errors with one code look the same, whatever they say. -/
theorem outcome_error {e e' : QueryError} (code : ErrorCode) (h : e.code = code) (h' : e'.code = code) :
    outcome f (.error e) = outcome f' (.error e') :=
  congrArg Except.error (h.trans h'.symm)

theorem outcome_map {m : α → β} {m' : α' → β'} (h : outcome f r = outcome f' r')
    (hm : ∀ a a', f a = f' a' → g (m a) = g' (m' a')) : outcome g (m <$> r) = outcome g' (m' <$> r') := by
  rw [map_eq_pure_bind, map_eq_pure_bind]
  exact outcome_bind h fun a a' ha => congrArg Except.ok (hm a a' ha)

end Outcomes

/-! ### Forms -/

/-- A token without the value that it binds. -/
def Token.blank : Token → Token
  | .placeholder _ => .placeholder .null
  | t => t

/-- Tokens without the values that they bind. -/
def blanks (ts : List Token) : List Token := ts.map Token.blank

/-- How a condition is written, but for the values that it binds. -/
def Condition.form (c : Condition) : List Token := blanks c.tokens

/-- How a scalar is written, but for the value that it may bind. -/
def Scalar.form (s : Scalar) : List Token := blanks s.tokens

@[simp] theorem blanks_append (ts us : List Token) : blanks (ts ++ us) = blanks ts ++ blanks us :=
  List.map_append

@[simp] theorem blanks_cons (t : Token) (ts : List Token) : blanks (t :: ts) = t.blank :: blanks ts := rfl

/-- The text does not depend on the values. -/
theorem writeTokens_blanks (d : Dialect) (k : Nat) (ts : List Token) :
    writeTokens d k (blanks ts) = writeTokens d k ts := by
  induction ts generalizing k with
  | nil => rfl
  | cons t ts ih =>
    cases t with
    | text s | identifier s => exact congrArg (_ ++ ·) (ih k)
    | placeholder v => exact congrArg (_ ++ ·) (ih (k + 1))

theorem length_boundValues_blanks (ts : List Token) : (boundValues (blanks ts)).length = (boundValues ts).length := by
  induction ts with
  | nil => rfl
  | cons t ts ih =>
    cases t with
    | text s | identifier s => exact ih
    | placeholder v => exact congrArg (· + 1) ih

/-- As many placeholders look the same. -/
theorem blanks_placeholders {vs ws : List Value} (h : vs.length = ws.length) :
    blanks (placeholders vs) = blanks (placeholders ws) := by
  induction vs generalizing ws with
  | nil => rw [List.length_eq_zero_iff.mp h.symm]
  | cons v vs ih =>
    cases ws with
    | nil => cases h
    | cons w ws =>
      have hlength : vs.length = ws.length := Nat.succ.inj h
      cases vs with
      | nil =>
        rw [List.length_eq_zero_iff.mp hlength.symm]
        rfl
      | cons v' vs =>
        cases ws with
        | nil => cases hlength
        | cons w' ws => exact congrArg (fun ts => [.placeholder .null, .text ", "] ++ ts) (ih hlength)

/-! ### The renderer -/

variable {a b : Parameter S} {role : Expr.Role} {e e' l l' r r' target target' : Expr S}

theorem outcome_path (h : Expr.Alike a b role e e') : outcome id (path a e) = outcome id (path b e') := by
  induction h with
  | @parameter _ p p' hp =>
    simp only [path]
    by_cases hpa : p = a
    · rw [if_pos hpa, if_pos (hp.mp hpa)]
    · rw [if_neg hpa, if_neg fun hpb => hpa (hp.mpr hpb)]
      exact outcome_error .invalidTree rfl rfl
  | project p _ ih =>
    refine outcome_bind ih fun names names' hnames => ?_
    rw [show names = names' from hnames]
  | constant | truth | member | compare | call | and | or | not | test => exact outcome_error .invalidTree rfl rfl

theorem outcome_column (h : Expr.Alike a b role target target') (m : Member S) :
    outcome id (column a target m) = outcome id (column b target' m) := by
  refine outcome_bind (outcome_path h) fun names names' hnames => ?_
  rw [show names = names' from hnames]

theorem outcome_scalarColumn (h : Expr.Alike a b .operand e e') :
    outcome id (scalarColumn a e) = outcome id (scalarColumn b e') := by
  cases h with
  | member m h =>
    simp only [scalarColumn]
    split
    · exact outcome_error .unsupportedNodeKind rfl rfl
    · exact outcome_column h m
  | parameter | project => exact outcome_error .invalidTree rfl rfl
  | constant | compare | call | and | or | not | test => exact outcome_error .unsupportedNodeKind rfl rfl

/-- A constant is bound, whatever its value, unless it is a list. -/
theorem outcome_scalar (h : Expr.Alike a b .operand e e') :
    outcome Scalar.form (scalar a e) = outcome Scalar.form (scalar b e') := by
  have hcolumn : outcome Scalar.form (Scalar.column <$> scalarColumn a e) =
      outcome Scalar.form (Scalar.column <$> scalarColumn b e') :=
    outcome_map (outcome_scalarColumn h) fun c c' hc => by rw [show c = c' from hc]
  cases h with
  | constant hv =>
    cases hv with
    | list => exact outcome_error .unsupportedNodeKind rfl rfl
    | null | bool | int | decimal | string | dateTime | uuid => rfl
  | parameter | member | project | compare | call | and | or | not | test => exact hcolumn

theorem outcome_textColumn (h : Expr.Alike a b .operand e e') (mode : CaseMode) :
    outcome id (textColumn a mode e) = outcome id (textColumn b mode e') := by
  refine outcome_bind (outcome_scalarColumn h) fun c c' hc => ?_
  rw [show c = c' from hc]

theorem outcome_scalarFamily (h : Expr.Alike a b .operand e e') (m : Method) :
    outcome id (scalarFamily m e) = outcome id (scalarFamily m e') := by
  cases h with
  | member p h =>
    simp only [scalarFamily]
    split
    · exact outcome_error .unsupportedNodeKind rfl rfl
    · rfl
  | parameter | constant | project | compare | call | and | or | not | test =>
    exact outcome_error .unsupportedNodeKind rfl rfl

/-- Whether an argument is a literal text does not depend on the text. -/
theorem outcome_textLiteral (h : Expr.Alike a b .operand e e') (m : Method) :
    outcome (fun _ => ()) (textLiteral m e) = outcome (fun _ => ()) (textLiteral m e') := by
  cases h with
  | constant hv =>
    cases hv with
    | string => rfl
    | null | bool | int | decimal | dateTime | uuid | list => exact outcome_error .unsupportedNodeKind rfl rfl
  | parameter | member | project | compare | call | and | or | not | test =>
    exact outcome_error .unsupportedNodeKind rfl rfl

theorem outcome_renderLike {arg arg' : Expr S} (ht : Expr.Alike a b .operand target target')
    (ha : Expr.Alike a b .operand arg arg') (m : Method) (mode : CaseMode) (leading trailing : Bool) :
    outcome Condition.form (renderLike a m mode leading trailing target arg) =
      outcome Condition.form (renderLike b m mode leading trailing target' arg') := by
  refine outcome_bind (outcome_textLiteral ha m) fun needle needle' _ => ?_
  refine outcome_bind (outcome_textColumn ht mode) fun s s' hs => ?_
  rw [show s = s' from hs]
  simp [outcome, Condition.form, Condition.tokens, Token.blank]

theorem outcome_textEquals {arg arg' : Expr S} (ht : Expr.Alike a b .operand target target')
    (ha : Expr.Alike a b .operand arg arg') (mode : CaseMode) :
    outcome Condition.form (renderCall a (.textEquals mode) target [arg]) =
      outcome Condition.form (renderCall b (.textEquals mode) target' [arg']) := by
  refine outcome_bind (outcome_textLiteral ha _) fun s s' _ => ?_
  refine outcome_bind (outcome_textColumn ht mode) fun c c' hc => ?_
  rw [show c = c' from hc]
  simp [outcome, Condition.form, Condition.tokens, Scalar.tokens, Token.blank]

theorem outcome_isDefault (ht : Expr.Alike a b .operand target target') :
    outcome Condition.form (renderCall a .isDefault target []) =
      outcome Condition.form (renderCall b .isDefault target' []) := by
  refine outcome_bind (outcome_scalarFamily ht _) fun f f' hf => ?_
  refine outcome_bind (outcome_scalarColumn ht) fun c c' hc => ?_
  rw [show f = f' from hf, show c = c' from hc]

/-- An overlap is written with one placeholder for each member, and not at all if there is none. -/
theorem outcome_overlaps {arg arg' : Expr S} (ht : Expr.Alike a b .operand target target')
    (ha : Expr.Alike a b .operand arg arg') :
    outcome Condition.form (renderCall a .overlaps target [arg]) =
      outcome Condition.form (renderCall b .overlaps target' [arg']) := by
  refine outcome_bind (outcome_scalarFamily ht _) fun _ _ _ => ?_
  cases ha with
  | @constant v v' hv =>
    have hlength := hv.length_members
    have hempty : v.members.isEmpty = v'.members.isEmpty := by
      rw [Bool.eq_iff_iff, List.isEmpty_iff_length_eq_zero, List.isEmpty_iff_length_eq_zero, hlength]
    simp only [hempty]
    split
    · rfl
    · refine outcome_bind (outcome_scalar ht) fun s s' hs => ?_
      have hform : blanks s.tokens = blanks s'.tokens := hs
      simp [outcome, Condition.form, Condition.tokens, hform, blanks_placeholders hlength]
  | parameter | member | project | compare | call | and | or | not | test =>
    exact outcome_error .unsupportedNodeKind rfl rfl

theorem outcome_renderCall {args args' : List (Expr S)} (ht : Expr.Alike a b .operand target target')
    (hlength : args.length = args'.length) (hargs : ∀ q ∈ args.zip args', Expr.Alike a b .operand q.1 q.2)
    (m : Method) : outcome Condition.form (renderCall a m target args) =
      outcome Condition.form (renderCall b m target' args') := by
  rcases args with _ | ⟨arg, _ | ⟨arg₂, rest⟩⟩
  · obtain rfl := List.length_eq_zero_iff.mp hlength.symm
    cases m with
    | isDefault => exact outcome_isDefault ht
    | contains | startsWith | endsWith | textEquals | overlaps | setEquals =>
      exact outcome_error .invalidTree rfl rfl
  · obtain ⟨arg', rfl⟩ := List.length_eq_one_iff.mp hlength.symm
    have harg : Expr.Alike a b .operand arg arg' := hargs (arg, arg') (List.mem_singleton_self _)
    cases m with
    | contains mode => exact outcome_renderLike ht harg _ mode true true
    | startsWith mode => exact outcome_renderLike ht harg _ mode false true
    | endsWith mode => exact outcome_renderLike ht harg _ mode true false
    | textEquals mode => exact outcome_textEquals ht harg mode
    | overlaps => exact outcome_overlaps ht harg
    | setEquals => exact outcome_error .unsupportedNodeKind rfl rfl
    | isDefault => exact outcome_error .invalidTree rfl rfl
  · rcases args' with _ | ⟨arg', _ | ⟨arg₂', rest'⟩⟩
    · cases hlength
    · cases hlength
    · cases m <;> exact outcome_error .invalidTree rfl rfl

theorem outcome_renderCompare (hl : Expr.Alike a b .operand l l') (hr : Expr.Alike a b .operand r r')
    (op : CompareOp) :
    outcome Condition.form (renderCompare a op l r) = outcome Condition.form (renderCompare b op l' r') := by
  refine outcome_bind (outcome_scalar hl) fun s s' hs => ?_
  refine outcome_bind (outcome_scalar hr) fun u u' hu => ?_
  have hleft : blanks s.tokens = blanks s'.tokens := hs
  have hright : blanks u.tokens = blanks u'.tokens := hu
  cases op with
  | eq | ne | lt | lte | gt | gte =>
    simp [outcome, Condition.form, Condition.tokens, hleft, hright]

/-- Conditions that are alike are written alike, or fail with the same code. -/
theorem outcome_renderCondition (h : Expr.Alike a b .condition e e') :
    outcome Condition.form (renderCondition a e) = outcome Condition.form (renderCondition b e') := by
  generalize hrole : Expr.Role.condition = role at h
  induction h with
  | constant => cases hrole
  | truth v => cases v <;> rfl
  | parameter | project => exact outcome_error .invalidTree rfl rfl
  | test => exact outcome_error .unsupportedNodeKind rfl rfl
  | member m h _ =>
    simp only [renderCondition]
    split
    · refine outcome_bind (outcome_column h m) fun c c' hc => ?_
      rw [show c = c' from hc]
    · rfl
  | compare op hl hr _ _ => exact outcome_renderCompare hl hr op
  | call m ht hlength hargs _ _ => exact outcome_renderCall ht hlength hargs m
  | and _ _ ihl ihr | or _ _ ihl ihr =>
    refine outcome_bind (ihl rfl) fun c c' hc => outcome_bind (ihr rfl) fun u u' hu => ?_
    have hleft : blanks c.tokens = blanks c'.tokens := hc
    have hright : blanks u.tokens = blanks u'.tokens := hu
    simp [outcome, Condition.form, Condition.tokens, hleft, hright]
  | not _ ih =>
    refine outcome_bind (ih rfl) fun c c' hc => ?_
    have hinner : blanks c.tokens = blanks c'.tokens := hc
    simp [outcome, Condition.form, Condition.tokens, hinner]

/-! ### Trees -/

/-- What a rendering shows apart from its values: the text and how many parameters there are, or the code of
the error. -/
def visible : Result Fragment → Except ErrorCode (String × Nat) :=
  outcome fun q => (q.sql, q.params.length)

/-- Trees that are alike have the same text, with as many parameters, or fail with the same code. -/
theorem visible_render {t : S.Entity} {tree tree' : Tree S t}
    (h : Expr.Alike tree.parameter tree'.parameter .condition tree.body tree'.body) (d : Dialect) :
    visible (render d tree) = visible (render d tree') := by
  have hblame : ∀ (tree : Tree S t) (r : Result Condition),
      outcome Condition.form (r.mapError tree.blame) = outcome Condition.form r := by
    rintro tree (e | c)
    · rfl
    · rfl
  have hcondition : outcome Condition.form (conditionOf tree) = outcome Condition.form (conditionOf tree') := by
    rw [conditionOf, conditionOf, hblame, hblame]
    exact outcome_renderCondition h
  have hform : ∀ c c' : Condition, c.form = c'.form → (writeTokens d 0 c.tokens, (boundValues c.tokens).length) =
      (writeTokens d 0 c'.tokens, (boundValues c'.tokens).length) := by
    intro c c' hc
    rw [← writeTokens_blanks, ← length_boundValues_blanks, show blanks c.tokens = blanks c'.tokens from hc,
      writeTokens_blanks, length_boundValues_blanks]
  exact outcome_map hcondition hform

end Sql

end EntityQuery

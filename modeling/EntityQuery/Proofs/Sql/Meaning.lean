import EntityQuery.Proofs.Sql.Grammar
import EntityQuery.Proofs.Sql.Pattern

/-!
# The meaning of SQL conditions

An expression of SQL has a value at a row. Truth values are three: a comparison with null is unknown, and so
is what depends on it (`Truth`). What comparison, matching and lower case are is up to the database
(`Engine`), within what every database agrees on: null makes the outcome unknown, comparable values compare
as they do in memory, and texts match by the rules of patterns. A database may convert values of different
families to each other, or it may tell them apart (`Engine.TellsApart`).

The text of a condition has, with the values that it binds, the truth value of the condition itself
(`eval_numbered`).
-/

namespace EntityQuery.Sql

/-! ### Three truth values -/

/-- A truth value, or unknown. -/
abbrev Truth := Option Bool

namespace Truth

/-- Conjunction, which is false if one side is, and unknown otherwise if one side is. -/
def and : Truth → Truth → Truth
  | some true, some true => some true
  | some false, _ => some false
  | _, some false => some false
  | _, _ => none

/-- Disjunction, which is true if one side is, and unknown otherwise if one side is. -/
def or : Truth → Truth → Truth
  | some false, some false => some false
  | some true, _ => some true
  | _, some true => some true
  | _, _ => none

/-- Negation. The negation of unknown is unknown. -/
def not : Truth → Truth
  | some b => some !b
  | none => none

/-- A truth value as a value. Unknown is null. -/
def toValue : Truth → Value
  | some b => .bool b
  | none => .null

/-- A value as a truth value. What is neither true nor false is unknown. -/
def ofValue : Value → Truth
  | .bool b => some b
  | _ => none

@[simp] theorem ofValue_toValue (t : Truth) : ofValue t.toValue = t := by
  cases t <;> rfl

theorem toValue_eq_true_iff {t : Truth} : t.toValue = .bool true ↔ t = some true := by
  cases t <;> simp [toValue]

theorem and_eq_true_iff {t u : Truth} : and t u = some true ↔ t = some true ∧ u = some true := by
  rcases t with _ | _ | _ <;> rcases u with _ | _ | _ <;> simp [and]

theorem or_eq_true_iff {t u : Truth} : or t u = some true ↔ t = some true ∨ u = some true := by
  rcases t with _ | _ | _ <;> rcases u with _ | _ | _ <;> simp [or]

end Truth

/-! ### Databases -/

/-- Whether values that are ordered in this way compare as the operator says. -/
def Comparison.accepts : Comparison → Ordering → Bool
  | eq, o => o == .eq
  | lt, o => o == .lt
  | lte, o => o != .gt
  | gt, o => o == .gt
  | gte, o => o != .lt

/-- What a database does with values. -/
structure Engine where
  compare : Comparison → Value → Value → Truth
  /-- Whether a value matches a pattern, given the escape character. -/
  like : Char → Value → Value → Truth
  lower : Value → Value
  compare_null_left : ∀ op v, compare op .null v = none
  compare_null_right : ∀ op v, compare op v .null = none
  /-- Comparable values compare as they do in memory. -/
  compare_of_comparable : ∀ op v w o, v.compare? w = some o → compare op v w = some (op.accepts o)
  like_null : ∀ c p, like c .null p = none
  like_string : ∀ c s p, like c (.string s) (.string p) = some (matchesLike c p.toList s.toList)
  lower_null : lower .null = .null
  lower_string : ∀ s, lower (.string s) = .string (Text.lower s)

namespace Engine

variable {E : Engine} {v w : Value}

/-- The database does not take values for each other that cannot be compared, nor anything but texts for
texts. -/
structure TellsApart (E : Engine) : Prop where
  compare_ne : ∀ op v w, v.compare? w = none → E.compare op v w ≠ some true
  like_ne : ∀ c v p, v.string? = none → E.like c v (.string p) ≠ some true
  lower_string? : ∀ v, v.string? = none → (E.lower v).string? = none

/-- The database that knows of values what is known of them in memory. -/
def standard : Engine where
  compare op v w := (v.compare? w).map op.accepts
  like c
    | .string s, .string p => some (matchesLike c p.toList s.toList)
    | _, _ => none
  lower
    | .string s => .string (Text.lower s)
    | v => v
  compare_null_left op v := by rw [Value.compare?_null_left, Option.map_none]
  compare_null_right op v := by rw [Value.compare?_null_right, Option.map_none]
  compare_of_comparable op v w o h := by rw [h, Option.map_some]
  like_null _ _ := rfl
  like_string _ _ _ := rfl
  lower_null := rfl
  lower_string _ := rfl

theorem tellsApart_standard : standard.TellsApart where
  compare_ne op v w h := by
    have hunknown : standard.compare op v w = (v.compare? w).map op.accepts := rfl
    rw [hunknown, h]
    nofun
  like_ne c v p h := by
    cases v with
    | string s => cases h
    | null | bool | int | decimal | dateTime | uuid | list => nofun
  lower_string? v h := by
    cases v with
    | string s => cases h
    | null | bool | int | decimal | dateTime | uuid | list => rfl

/-- One of two values is null, or they can be compared. -/
def Related (v w : Value) : Prop := v = .null ∨ w = .null ∨ (v.compare? w).isSome = true

/-- A comparison is true exactly if the values are in an order that the operator accepts. -/
theorem compare_eq_true_iff (h : E.TellsApart ∨ Related v w) (op : Comparison) :
    E.compare op v w = some true ↔ ∃ o, v.compare? w = some o ∧ op.accepts o = true := by
  cases hc : v.compare? w with
  | some o =>
    rw [E.compare_of_comparable op v w o hc]
    simp
  | none =>
    have hne : E.compare op v w ≠ some true := by
      rcases h with h | rfl | rfl | h
      · exact h.compare_ne op v w hc
      · rw [E.compare_null_left]
        nofun
      · rw [E.compare_null_right]
        nofun
      · rw [hc] at h
        cases h
    simp [hne]

/-- Whether a value equals one of several others, as far as is known. -/
def isAmong (E : Engine) (v : Value) : List Value → Truth
  | [] => some false
  | w :: ws => Truth.or (E.compare .eq v w) (E.isAmong v ws)

theorem isAmong_eq_true_iff {ws : List Value} :
    E.isAmong v ws = some true ↔ ∃ w ∈ ws, E.compare .eq v w = some true := by
  induction ws with
  | nil => simp [isAmong]
  | cons w ws ih => simp [isAmong, Truth.or_eq_true_iff, ih]

end Engine

/-! ### Evaluation -/

variable (E : Engine) (columns : Column → Value)

mutual

/-- The value of an expression, given the values of the columns and the values bound to placeholders. -/
def Expression.eval (params : List Value) : Expression → Value
  | column c => columns c
  | parameter 0 => .null
  | parameter (n + 1) => params[n]?.getD .null
  | truth b => .bool b
  | lower e => E.lower (eval params e)
  | coalesce e f => if (eval params e).isNull then eval params f else eval params e
  | compare op l r => (E.compare op (eval params l) (eval params r)).toValue
  | isNull e => .bool (eval params e).isNull
  | like e p c => (E.like c (eval params e) (eval params p)).toValue
  | isIn e es => (E.isAmong (eval params e) (evalAll params es)).toValue
  | not e => (Truth.not (Truth.ofValue (eval params e))).toValue
  | and l r => (Truth.and (Truth.ofValue (eval params l)) (Truth.ofValue (eval params r))).toValue
  | or l r => (Truth.or (Truth.ofValue (eval params l)) (Truth.ofValue (eval params r))).toValue

/-- What a list of expressions comes to at a row. -/
def Expression.evalAll (params : List Value) : List Expression → List Value
  | [] => []
  | e :: es => e.eval params :: evalAll params es

end

/-- The value of a scalar. -/
def Scalar.value : Scalar → Value
  | column c => columns c
  | lower c => E.lower (columns c)
  | bound v => v

/-- The truth value of a condition. -/
def Condition.truth : Condition → Truth
  | literal b => some b
  | compare op l r => E.compare op (l.value E columns) (r.value E columns)
  | like s pattern => E.like likeEscape (s.value E columns) (.string pattern)
  | nullOr c v => Truth.or (some (columns c).isNull) (E.compare .eq (columns c) v)
  | isIn s vs => E.isAmong (s.value E columns) vs
  | and l r => Truth.and l.truth r.truth
  | or l r => Truth.or l.truth r.truth
  | notTrue c => some !(c.truth.getD false)

/-! ### Placeholders -/

variable {E columns} {params : List Value} {k : Nat}

/-- Values bound one after the other are bound to the placeholders of each. -/
theorem prefix_drop_append {vs ws : List Value} (h : vs ++ ws <+: params.drop k) :
    vs <+: params.drop k ∧ ws <+: params.drop (k + vs.length) := by
  obtain ⟨rest, hrest⟩ := h
  refine ⟨⟨ws ++ rest, by rw [← List.append_assoc, hrest]⟩, ⟨rest, ?_⟩⟩
  rw [← List.drop_drop, ← hrest, List.append_assoc, List.drop_left]

theorem eval_parameter {v : Value} {vs : List Value} (h : v :: vs <+: params.drop k) :
    (Expression.parameter (k + 1)).eval E columns params = v := by
  obtain ⟨rest, hrest⟩ := h
  have hget : params[k]? = some v := by
    rw [← Nat.add_zero k, ← List.getElem?_drop, ← hrest]
    rfl
  rw [Expression.eval, hget]
  rfl

theorem evalAll_numberedValues {vs : List Value} (h : vs <+: params.drop k) :
    Expression.evalAll E columns params (numberedValues k vs) = vs := by
  induction vs generalizing k with
  | nil => rw [numberedValues, Expression.evalAll]
  | cons v vs ih =>
    have hrest : vs <+: params.drop (k + 1) := (prefix_drop_append (show [v] ++ vs <+: _ from h)).2
    rw [numberedValues, Expression.evalAll, eval_parameter h, ih hrest]

theorem eval_scalar {s : Scalar} (h : s.values <+: params.drop k) :
    (s.numbered k).eval E columns params = s.value E columns := by
  cases s with
  | column c => rw [Scalar.numbered, Expression.eval, Scalar.value]
  | lower c => rw [Scalar.numbered, Expression.eval, Expression.eval, Scalar.value]
  | bound v => exact eval_parameter h

/-- The truth or, where it is unknown, the other value. -/
theorem coalesce_toValue (t : Truth) (b : Bool) :
    (if t.toValue.isNull then .bool b else t.toValue) = Value.bool (t.getD b) := by
  cases t <;> rfl

/-- What a condition is written as has the truth value of the condition. -/
theorem eval_numbered {c : Condition} (h : c.values <+: params.drop k) :
    (c.numbered k).eval E columns params = (c.truth E columns).toValue := by
  induction c generalizing k with
  | literal b =>
    rw [Condition.numbered, Expression.eval, Condition.truth]
    rfl
  | compare op l r =>
    obtain ⟨hl, hr⟩ := prefix_drop_append h
    rw [Condition.numbered, Expression.eval, eval_scalar hl, eval_scalar hr, Condition.truth]
  | like s pattern =>
    obtain ⟨hs, hp⟩ := prefix_drop_append h
    rw [Condition.numbered, Expression.eval, eval_scalar hs, eval_parameter hp, Condition.truth]
  | nullOr c v =>
    have hnull : (Expression.isNull (.column c)).eval E columns params = .bool (columns c).isNull := by
      rw [Expression.eval, Expression.eval]
    have hequal : (Expression.compare .eq (.column c) (.parameter (k + 1))).eval E columns params =
        (E.compare .eq (columns c) v).toValue := by
      rw [Expression.eval, Expression.eval, eval_parameter h]
    rw [Condition.numbered, Expression.eval, hnull, hequal, Truth.ofValue_toValue, Condition.truth]
    rfl
  | isIn s vs =>
    obtain ⟨hs, hvs⟩ := prefix_drop_append h
    rw [Condition.numbered, Expression.eval, eval_scalar hs, evalAll_numberedValues hvs,
      Condition.truth]
  | and l r ihl ihr =>
    obtain ⟨hl, hr⟩ := prefix_drop_append h
    rw [Condition.numbered, Expression.eval, ihl hl, ihr hr, Truth.ofValue_toValue,
      Truth.ofValue_toValue, Condition.truth]
  | or l r ihl ihr =>
    obtain ⟨hl, hr⟩ := prefix_drop_append h
    rw [Condition.numbered, Expression.eval, ihl hl, ihr hr, Truth.ofValue_toValue,
      Truth.ofValue_toValue, Condition.truth]
  | notTrue c ih =>
    have hcoalesce : (Expression.coalesce (c.numbered k) (.truth false)).eval E columns params =
        .bool ((c.truth E columns).getD false) := by
      rw [Expression.eval, ih h, Expression.eval, coalesce_toValue]
    rw [Condition.numbered, Expression.eval, hcoalesce, Condition.truth]
    rfl

/-- A negation is true exactly where the condition is not: false or unknown. -/
theorem truth_notTrue_iff {c : Condition} :
    c.notTrue.truth E columns = some true ↔ ¬c.truth E columns = some true := by
  rw [Condition.truth]
  rcases c.truth E columns with _ | _ | _ <;> simp

/-- A test for null is true also where the column is null. -/
theorem truth_nullOr_iff {c : Column} {v : Value} :
    (Condition.nullOr c v).truth E columns = some true ↔
      columns c = .null ∨ E.compare .eq (columns c) v = some true := by
  rw [Condition.truth, Truth.or_eq_true_iff, Option.some.injEq]
  have hnull : (columns c).isNull = true ↔ columns c = .null := by
    cases columns c <;> simp [Value.isNull]
  rw [hnull]

end EntityQuery.Sql

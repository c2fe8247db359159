import EntityQuery.Proofs.Sql.Written

/-!
# The grammar of SQL conditions

Lexemes are read as an expression by the rules of SQL. A disjunction joins conjunctions, a conjunction joins
negations, and `NOT` stands before a predicate; a predicate is a comparison, a test for null, a match with
a pattern, a test for membership, or an operand alone. Operands are columns, placeholders, truth values,
calls of functions and expressions between parentheses. Operators of one rank group from the left.

The readers of all ranks are written for expressions between parentheses that are read by another reader
(`disjunction`); what is nested is then read by recursion on its depth (`expression`).

The text of a condition is read as the expression that is meant, whatever the dialect
(`read_writeTokens`): the parentheses that are written are enough to keep the operators apart, and each
placeholder has the number of the value that is bound to it (`Condition.numbered`).
-/

namespace EntityQuery.Sql

/-- An expression of SQL. -/
inductive Expression where
  | column (c : Column)
  /-- The value bound to the placeholder with this number, counted from one. -/
  | parameter (n : Nat)
  | truth (b : Bool)
  | lower (e : Expression)
  /-- The first expression, unless it is null. -/
  | coalesce (e f : Expression)
  | compare (op : Comparison) (l r : Expression)
  | isNull (e : Expression)
  | like (e pattern : Expression) (escape : Char)
  | isIn (e : Expression) (es : List Expression)
  | not (e : Expression)
  | and (l r : Expression)
  | or (l r : Expression)

/-! ### Readers -/

/-- Reads from the front and gives back the rest. -/
abbrev Reader (α : Type) := List Lexeme → Option (α × List Lexeme)

/-- The column whose last name so far is `name`. -/
def columnRest (path : List String) (name : String) : List Lexeme → Column × List Lexeme
  | .dot :: .name s :: rest => columnRest (path ++ [name]) s rest
  | ls => (⟨path, name⟩, ls)

/-- What a reader reads up to a closing parenthesis. -/
def closed {α : Type} (r : Reader α) : Reader α := fun ls =>
  match r ls with
  | some (a, .closing :: rest) => some (a, rest)
  | _ => none

/-- At most so many parts with commas between them, at least one. -/
def listed {α : Type} (r : Reader α) : Nat → Reader (List α)
  | 0, _ => none
  | n + 1, ls =>
    match r ls with
    | some (a, .comma :: rest) => (listed r n rest).map fun q => (a :: q.1, q.2)
    | some (a, rest) => some ([a], rest)
    | none => none

section Ranks

variable (inner : Reader Expression)

/-- A constant, a parameter, a column, a function or an expression in parentheses. -/
def primary : Reader Expression
  | .keyword .true :: rest => some (.truth true, rest)
  | .keyword .false :: rest => some (.truth false, rest)
  | .parameter n :: rest => some (.parameter n, rest)
  | .name s :: rest => some (.column (columnRest [] s rest).1, (columnRest [] s rest).2)
  | .opening :: rest => closed inner rest
  | .keyword .lower :: .opening :: rest => (closed inner rest).map fun q => (.lower q.1, q.2)
  | .keyword .coalesce :: .opening :: rest =>
    match inner rest with
    | some (e, .comma :: rest) => (closed inner rest).map fun q => (.coalesce e q.1, q.2)
    | _ => none
  | _ => none

/-- A comparison, or a test for null, of a pattern or of a list. -/
def predicate : Reader Expression := fun ls =>
  match primary inner ls with
  | some (e, .comparison op :: rest) => (primary inner rest).map fun q => (.compare op e q.1, q.2)
  | some (e, .keyword .is :: .keyword .null :: rest) => some (.isNull e, rest)
  | some (e, .keyword .like :: rest) =>
    match primary inner rest with
    | some (p, .keyword .escape :: .text s :: rest) =>
      match s.toList with
      | [c] => some (.like e p c, rest)
      | _ => none
    | _ => none
  | some (e, .keyword .within :: .opening :: rest) =>
    (closed (listed inner rest.length) rest).map fun q => (.isIn e q.1, q.2)
  | some (e, rest) => some (e, rest)
  | none => none

/-- A predicate behind any number of negations. -/
def negation : Reader Expression
  | .keyword .not :: rest => (negation rest).map fun q => (.not q.1, q.2)
  | ls => predicate inner ls

/-- Goes on with at most so many operands of a connective. -/
def chain (w : Keyword) (join : Expression → Expression → Expression) (operand : Reader Expression) :
    Nat → Expression → Reader Expression
  | n + 1, left, .keyword k :: rest =>
    if k = w then
      match operand rest with
      | some (right, rest) => chain w join operand n (join left right) rest
      | none => none
    else some (left, .keyword k :: rest)
  | _, left, ls => some (left, ls)

/-- Negations joined by conjunction, from the left. -/
def conjunction : Reader Expression := fun ls =>
  match negation inner ls with
  | some (e, rest) => chain .and .and (negation inner) rest.length e rest
  | none => none

/-- Conjunctions joined by disjunction, from the left. -/
def disjunction : Reader Expression := fun ls =>
  match conjunction inner ls with
  | some (e, rest) => chain .or .or (conjunction inner) rest.length e rest
  | none => none

end Ranks

/-- Reads an expression in which at most so many others are nested in each other. -/
def expression : Nat → Reader Expression
  | 0 => fun _ => none
  | n + 1 => disjunction (expression n)

/-- The expression that a text of SQL is. -/
def read (d : Dialect) (sql : String) : Option Expression :=
  match lex d 0 sql.toList with
  | some ls =>
    match expression (ls.length + 1) ls with
    | some (e, []) => some e
    | _ => none
  | none => none

/-! ### What is meant -/

/-- The expression that is meant by a scalar after `k` placeholders. -/
def Scalar.numbered (k : Nat) : Scalar → Expression
  | column c => .column c
  | lower c => .lower (.column c)
  | bound _ => .parameter (k + 1)

/-- Placeholders for values after `k` others. -/
def numberedValues (k : Nat) : List Value → List Expression
  | [] => []
  | _ :: rest => .parameter (k + 1) :: numberedValues (k + 1) rest

/-- The expression that is meant by a condition after `k` placeholders. -/
def Condition.numbered (k : Nat) : Condition → Expression
  | literal b => .truth b
  | compare op l r => .compare op (l.numbered k) (r.numbered (k + l.values.length))
  | like s _ => .like (s.numbered k) (.parameter (k + s.values.length + 1)) likeEscape
  | nullOr c _ => .or (.isNull (.column c)) (.compare .eq (.column c) (.parameter (k + 1)))
  | isIn s vs => .isIn (s.numbered k) (numberedValues (k + s.values.length) vs)
  | and l r => .and (l.numbered k) (r.numbered (k + l.values.length))
  | or l r => .or (l.numbered k) (r.numbered (k + l.values.length))
  | notTrue c => .not (.coalesce (c.numbered k) (.truth false))

/-! ### Operands and predicates -/

/-- Whether a lexeme goes on with a predicate whose first operand has been read. -/
def Lexeme.continues : Lexeme → Bool
  | comparison _ | dot | keyword .is | keyword .like | keyword .within => true
  | _ => false

/-- What follows does not go on with the predicate. -/
def Closes (rest : List Lexeme) : Prop := ∀ l ∈ rest.head?, l.continues = false

/-- What follows does not go on with a column. -/
def Undotted (rest : List Lexeme) : Prop := ∀ l ∈ rest.head?, l ≠ .dot

/-- What follows comes after the whole expression. -/
def Ends (rest : List Lexeme) : Prop := ∀ l ∈ rest.head?, l = .closing ∨ l = .comma

theorem ends_nil : Ends [] := by
  intro l hl
  cases hl

theorem ends_closing (rest : List Lexeme) : Ends (.closing :: rest) := by
  intro l hl
  cases hl
  exact .inl rfl

theorem ends_comma (rest : List Lexeme) : Ends (.comma :: rest) := by
  intro l hl
  cases hl
  exact .inr rfl

theorem Ends.closes {rest : List Lexeme} (h : Ends rest) : Closes rest := by
  intro l hl
  rcases h l hl with rfl | rfl <;> rfl

theorem Closes.undotted {rest : List Lexeme} (h : Closes rest) : Undotted rest := by
  rintro l hl rfl
  cases h _ hl

theorem undotted_cons {l : Lexeme} (h : l ≠ .dot) (rest : List Lexeme) : Undotted (l :: rest) := by
  intro l' hl'
  cases hl'
  exact h

theorem closes_cons {l : Lexeme} (h : l.continues = false) (rest : List Lexeme) : Closes (l :: rest) := by
  intro l' hl'
  cases hl'
  exact h

variable {inner : Reader Expression}

/-- The first name of a column and what comes after it. -/
theorem column_lexemes_eq_cons (c : Column) : ∃ s ls, c.lexemes = .name s :: ls := by
  obtain ⟨path, name⟩ := c
  cases path with
  | nil => exact ⟨name, [], rfl⟩
  | cons s rest => exact ⟨s, _, rfl⟩

theorem columnRest_lexemes {rest : List Lexeme} (h : Undotted rest) {path : List String}
    {name s : String} {ls : List Lexeme} (hc : Column.lexemes ⟨path, name⟩ = .name s :: ls)
    (before : List String) : columnRest before s (ls ++ rest) = (⟨before ++ path, name⟩, rest) := by
  induction path generalizing before s ls with
  | nil =>
    cases hc
    rw [List.nil_append, List.append_nil]
    cases rest with
    | nil => rfl
    | cons l tail =>
      have hl : l ≠ .dot := h l rfl
      unfold columnRest
      split
      · rename_i heq
        cases heq
        exact absurd rfl hl
      · rfl
  | cons t path ih =>
    obtain ⟨s', ls', hc'⟩ := column_lexemes_eq_cons ⟨path, name⟩
    have hcons : Column.lexemes ⟨t :: path, name⟩ = .name t :: .dot :: Column.lexemes ⟨path, name⟩ := rfl
    rw [hcons, hc'] at hc
    cases hc
    rw [List.cons_append, List.cons_append, columnRest, ih hc', List.append_assoc]
    rfl

theorem primary_column (c : Column) {rest : List Lexeme} (h : Undotted rest) :
    primary inner (c.lexemes ++ rest) = some (.column c, rest) := by
  obtain ⟨s, ls, hc⟩ := column_lexemes_eq_cons c
  rw [hc, List.cons_append, primary, columnRest_lexemes h hc]
  rfl

/-- An operand alone is a predicate. -/
theorem predicate_of_primary {ls rest : List Lexeme} {e : Expression}
    (h : primary inner ls = some (e, rest)) (hrest : Closes rest) :
    predicate inner ls = some (e, rest) := by
  unfold predicate
  rw [h]
  split
  · rename_i heq
    cases heq
    cases hrest _ rfl
  · rename_i heq
    cases heq
    cases hrest _ rfl
  · rename_i heq
    cases heq
    cases hrest _ rfl
  · rename_i heq
    cases heq
    cases hrest _ rfl
  · rename_i heq
    cases heq
    rfl
  · rename_i heq
    cases heq

theorem closed_of_read {α : Type} {r : Reader α} {ls rest : List Lexeme} {a : α}
    (h : r ls = some (a, .closing :: rest)) : closed r ls = some (a, rest) := by
  rw [closed, h]

/-! ### Connectives -/

theorem chain_stop {w : Keyword} {join : Expression → Expression → Expression}
    {operand : Reader Expression} {rest : List Lexeme} (h : ∀ l ∈ rest.head?, l ≠ .keyword w) (n : Nat)
    (e : Expression) : chain w join operand n e rest = some (e, rest) := by
  unfold chain
  split
  · rename_i k tail
    have hk : k ≠ w := by
      rintro rfl
      exact h _ rfl rfl
    rw [if_neg hk]
  · rfl

theorem chain_step {w : Keyword} {join : Expression → Expression → Expression}
    {operand : Reader Expression} {ls rest : List Lexeme} {r : Expression}
    (hr : operand ls = some (r, rest)) (h : ∀ l ∈ rest.head?, l ≠ .keyword w) (n : Nat)
    (e : Expression) : chain w join operand (n + 1) e (.keyword w :: ls) = some (join e r, rest) := by
  rw [chain, if_pos rfl, hr]
  exact chain_stop h n _

theorem negation_of_predicate {ls : List Lexeme} (h : ∀ l ∈ ls.head?, l ≠ .keyword .not) :
    negation inner ls = predicate inner ls := by
  unfold negation
  split
  · exact absurd rfl (h _ rfl)
  · rfl

theorem Ends.ne_keyword {rest : List Lexeme} (h : Ends rest) (w : Keyword) :
    ∀ l ∈ rest.head?, l ≠ .keyword w := by
  rintro l hl rfl
  rcases h _ hl with h | h <;> cases h

/-- An expression without connectives on the outside. -/
theorem disjunction_of_negation {ls rest : List Lexeme} {e : Expression}
    (h : negation inner ls = some (e, rest)) (hand : ∀ l ∈ rest.head?, l ≠ .keyword .and)
    (hor : ∀ l ∈ rest.head?, l ≠ .keyword .or) : disjunction inner ls = some (e, rest) := by
  have hconjunction : conjunction inner ls = some (e, rest) := by
    rw [conjunction, h]
    exact chain_stop hand _ e
  rw [disjunction, hconjunction]
  exact chain_stop hor _ e

theorem disjunction_and {ls ms rest : List Lexeme} {l r : Expression}
    (hl : negation inner ls = some (l, .keyword .and :: ms))
    (hr : negation inner ms = some (r, rest)) (hrest : Ends rest) :
    disjunction inner ls = some (.and l r, rest) := by
  have hconjunction : conjunction inner ls = some (.and l r, rest) := by
    rw [conjunction, hl]
    exact chain_step hr (hrest.ne_keyword .and) _ l
  rw [disjunction, hconjunction]
  exact chain_stop (hrest.ne_keyword .or) _ _

theorem disjunction_or {ls ms rest : List Lexeme} {l r : Expression}
    (hl : negation inner ls = some (l, .keyword .or :: ms))
    (hr : negation inner ms = some (r, rest)) (hrest : Ends rest) :
    disjunction inner ls = some (.or l r, rest) := by
  have hleft : conjunction inner ls = some (l, .keyword .or :: ms) := by
    rw [conjunction, hl]
    exact chain_stop (by rintro l' hl' rfl; cases hl') _ l
  have hright : conjunction inner ms = some (r, rest) := by
    rw [conjunction, hr]
    exact chain_stop (hrest.ne_keyword .and) _ r
  rw [disjunction, hleft]
  exact chain_step hright (hrest.ne_keyword .or) _ l

/-! ### Scalars -/

theorem expression_of_negation {n : Nat} {ls rest : List Lexeme} {e : Expression}
    (h : negation (expression n) ls = some (e, rest)) (hrest : Ends rest) :
    expression (n + 1) ls = some (e, rest) :=
  disjunction_of_negation h (hrest.ne_keyword .and) (hrest.ne_keyword .or)

theorem negation_of_primary {ls rest : List Lexeme} {e : Expression}
    (h : primary inner ls = some (e, rest)) (hrest : Closes rest)
    (hnot : ∀ l ∈ ls.head?, l ≠ .keyword .not) : negation inner ls = some (e, rest) := by
  rw [negation_of_predicate hnot]
  exact predicate_of_primary h hrest

/-- A column by itself, as an argument of a function. -/
theorem expression_column (n : Nat) (c : Column) {rest : List Lexeme} (h : Ends rest) :
    expression (n + 1) (c.lexemes ++ rest) = some (.column c, rest) := by
  refine expression_of_negation (negation_of_primary (primary_column c h.closes.undotted) h.closes ?_) h
  obtain ⟨s, ls, hc⟩ := column_lexemes_eq_cons c
  rintro l hl rfl
  rw [hc] at hl
  cases hl

theorem expression_parameter (n k : Nat) {rest : List Lexeme} (h : Ends rest) :
    expression (n + 1) (.parameter k :: rest) = some (.parameter k, rest) :=
  expression_of_negation (negation_of_primary rfl h.closes nofun) h

theorem primary_scalar (n k : Nat) (s : Scalar) {rest : List Lexeme} (h : Undotted rest) :
    primary (expression (n + 1)) (s.lexemes k ++ rest) = some (s.numbered k, rest) := by
  cases s with
  | column c => exact primary_column c h
  | bound v => rfl
  | lower c =>
    have hc := expression_column n c (ends_closing rest)
    have hclosed := closed_of_read hc
    rw [Scalar.lexemes, List.cons_append, List.cons_append, List.append_assoc, List.cons_append,
      List.nil_append, primary, hclosed]
    rfl

/-- A scalar does not start with a negation. -/
theorem scalar_ne_not (k : Nat) (s : Scalar) (rest : List Lexeme) :
    ∀ l ∈ (s.lexemes k ++ rest).head?, l ≠ .keyword .not := by
  rintro l hl rfl
  cases s with
  | column c =>
    obtain ⟨t, ls, hc⟩ := column_lexemes_eq_cons c
    rw [Scalar.lexemes, hc] at hl
    cases hl
  | bound v => cases hl
  | lower c => cases hl

/-- Placeholders with commas between them are read as a list. -/
theorem listed_parameters (n : Nat) {vs : List Value} (hvs : vs ≠ []) (k m : Nat)
    (rest : List Lexeme) (hm : (parameterLexemes k vs).length ≤ m) :
    listed (expression (n + 1)) m (parameterLexemes k vs ++ .closing :: rest) =
      some (numberedValues k vs, .closing :: rest) := by
  induction vs generalizing k m with
  | nil => exact absurd rfl hvs
  | cons v vs ih =>
    cases vs with
    | nil =>
      obtain ⟨m, rfl⟩ : ∃ m', m = m' + 1 := ⟨m - 1, by simp [parameterLexemes] at hm; omega⟩
      have hp := expression_parameter n (k + 1) (ends_closing rest)
      rw [parameterLexemes, List.cons_append, List.nil_append, listed, hp]
      rfl
    | cons w vs =>
      simp only [parameterLexemes, List.length_cons] at hm
      obtain ⟨m, rfl⟩ : ∃ m', m = m' + 1 := ⟨m - 1, by omega⟩
      have hlist := ih (by simp) (k + 1) m (by omega)
      have hp := expression_parameter n (k + 1)
        (ends_comma (parameterLexemes (k + 1) (w :: vs) ++ .closing :: rest))
      rw [parameterLexemes, List.cons_append, List.cons_append, listed, hp]
      · simp only [hlist]
        rfl
      · simp

/-! ### Conditions -/

/-- Every test for membership lists at least one value. -/
def Condition.Listing : Condition → Prop
  | isIn _ vs => vs ≠ []
  | and l r | or l r => l.Listing ∧ r.Listing
  | notTrue c => c.Listing
  | _ => True

theorem negation_compare (n k : Nat) (op : Comparison) (l r : Scalar) {rest : List Lexeme}
    (h : Closes rest) :
    negation (expression (n + 1)) ((Condition.compare op l r).lexemes k ++ rest) =
      some ((Condition.compare op l r).numbered k, rest) := by
  have hl := primary_scalar n k l
    (undotted_cons (l := .comparison op) nofun (r.lexemes (k + l.values.length) ++ rest))
  have hr := primary_scalar n (k + l.values.length) r h.undotted
  rw [Condition.lexemes, List.append_assoc, List.cons_append, negation_of_predicate (scalar_ne_not k l _),
    predicate, hl]
  simp only [hr]
  rfl

theorem negation_like (n k : Nat) (s : Scalar) (pattern : String) (rest : List Lexeme) :
    negation (expression (n + 1)) ((Condition.like s pattern).lexemes k ++ rest) =
      some ((Condition.like s pattern).numbered k, rest) := by
  have hs := primary_scalar n k s (undotted_cons (l := .keyword .like) nofun
    (.parameter (k + s.values.length + 1) :: .keyword .escape :: .text likeEscape.toString :: rest))
  rw [Condition.lexemes, List.append_assoc, negation_of_predicate (scalar_ne_not k s _), predicate]
  simp only [List.cons_append, List.nil_append, hs]
  rfl

theorem negation_isIn (n k : Nat) (s : Scalar) {vs : List Value} (hvs : vs ≠ []) (rest : List Lexeme) :
    negation (expression (n + 1)) ((Condition.isIn s vs).lexemes k ++ rest) =
      some ((Condition.isIn s vs).numbered k, rest) := by
  have hs := primary_scalar n k s (undotted_cons (l := .keyword .within) nofun
    (.opening :: (parameterLexemes (k + s.values.length) vs ++ .closing :: rest)))
  have hlist := closed_of_read (listed_parameters n hvs (k + s.values.length)
    (parameterLexemes (k + s.values.length) vs ++ .closing :: rest).length rest (by simp))
  rw [Condition.lexemes, List.append_assoc, negation_of_predicate (scalar_ne_not k s _), predicate]
  simp only [List.cons_append, List.append_assoc, List.nil_append, hs, hlist]
  rfl

/-- Two conditions with a connective between them, in parentheses. -/
theorem negation_parentheses {n : Nat} {ls rest : List Lexeme} {e : Expression}
    (h : disjunction (expression n) ls = some (e, .closing :: rest)) (hrest : Closes rest) :
    negation (expression (n + 1)) (.opening :: ls) = some (e, rest) := by
  have hprimary : primary (expression (n + 1)) (.opening :: ls) = some (e, rest) := by
    rw [primary]
    exact closed_of_read h
  exact negation_of_primary hprimary hrest (by rintro l hl rfl; cases hl)

theorem negation_isNull (n : Nat) (c : Column) (rest : List Lexeme) :
    negation (expression n) (c.lexemes ++ .keyword .is :: .keyword .null :: rest) =
      some (.isNull (.column c), rest) := by
  have hc : primary (expression n) (c.lexemes ++ .keyword .is :: .keyword .null :: rest) =
      some (.column c, .keyword .is :: .keyword .null :: rest) :=
    primary_column c (undotted_cons (l := .keyword .is) nofun _)
  have hnot := scalar_ne_not 0 (.column c) (.keyword .is :: .keyword .null :: rest)
  rw [Scalar.lexemes] at hnot
  rw [negation_of_predicate hnot, predicate, hc]

theorem negation_nullOr (n k : Nat) (c : Column) (v : Value) {rest : List Lexeme} (h : Closes rest) :
    negation (expression (n + 2)) ((Condition.nullOr c v).lexemes k ++ rest) =
      some ((Condition.nullOr c v).numbered k, rest) := by
  have hequal := negation_compare n k .eq (.column c) (.bound v) (closes_cons rfl rest (l := .closing))
  have hnull := negation_isNull (n + 1) c
    (.keyword .or :: ((Condition.compare .eq (.column c) (.bound v)).lexemes k ++ .closing :: rest))
  have hor := negation_parentheses (disjunction_or hnull hequal (ends_closing rest)) h
  simpa [Condition.lexemes, Condition.numbered, Scalar.lexemes, Scalar.numbered, Scalar.values] using hor

/-- A test for what is not true, given that the condition in it is read as an argument. -/
theorem negation_notTrue {n : Nat} {ls rest : List Lexeme} {e : Expression}
    (h : expression (n + 1) (ls ++ .comma :: .keyword .false :: .closing :: rest) =
      some (e, .comma :: .keyword .false :: .closing :: rest)) (hrest : Closes rest) :
    negation (expression (n + 1))
        (.keyword .not :: .keyword .coalesce :: .opening ::
          (ls ++ .comma :: .keyword .false :: .closing :: rest)) =
      some (.not (.coalesce e (.truth false)), rest) := by
  have hfalse : expression (n + 1) (.keyword .false :: .closing :: rest) =
      some (.truth false, .closing :: rest) :=
    expression_of_negation (negation_of_primary rfl (ends_closing rest).closes nofun) (ends_closing rest)
  have hprimary : primary (expression (n + 1)) (.keyword .coalesce :: .opening ::
      (ls ++ .comma :: .keyword .false :: .closing :: rest)) =
        some (.coalesce e (.truth false), rest) := by
    simp only [primary, h, closed_of_read hfalse]
    rfl
  have hcoalesce := negation_of_primary hprimary hrest nofun
  rw [negation, hcoalesce]
  rfl

/-- The lexemes of a condition are read as what is meant, up to whatever does not go on with a predicate. -/
theorem negation_condition {c : Condition} (hc : c.Listing) (k n : Nat) {rest : List Lexeme}
    (hn : (c.lexemes k).length ≤ n) (h : Closes rest) :
    negation (expression n) (c.lexemes k ++ rest) = some (c.numbered k, rest) := by
  induction c generalizing k n rest with
  | literal b =>
    cases b with
    | true => exact negation_of_primary rfl h nofun
    | false => exact negation_of_primary rfl h nofun
  | compare op l r =>
    obtain ⟨n, rfl⟩ : ∃ m, n = m + 1 := ⟨n - 1, by simp [Condition.lexemes] at hn; omega⟩
    exact negation_compare n k op l r h
  | like s pattern =>
    obtain ⟨n, rfl⟩ : ∃ m, n = m + 1 := ⟨n - 1, by simp [Condition.lexemes] at hn; omega⟩
    exact negation_like n k s pattern rest
  | nullOr c v =>
    obtain ⟨n, rfl⟩ : ∃ m, n = m + 2 := ⟨n - 2, by simp [Condition.lexemes] at hn; omega⟩
    exact negation_nullOr n k c v h
  | isIn s vs =>
    obtain ⟨n, rfl⟩ : ∃ m, n = m + 1 := ⟨n - 1, by simp [Condition.lexemes] at hn; omega⟩
    exact negation_isIn n k s hc rest
  | and l r ihl ihr =>
    simp only [Condition.lexemes, List.length_cons, List.length_append, List.length_nil] at hn
    obtain ⟨n, rfl⟩ : ∃ m, n = m + 1 := ⟨n - 1, by omega⟩
    have hleft := ihl hc.1 k n (by omega) (closes_cons rfl
      (r.lexemes (k + l.values.length) ++ .closing :: rest) (l := .keyword .and))
    have hright := ihr hc.2 (k + l.values.length) n (by omega) (ends_closing rest).closes
    have hand := negation_parentheses (disjunction_and hleft hright (ends_closing rest)) h
    simpa [Condition.lexemes, Condition.numbered] using hand
  | or l r ihl ihr =>
    simp only [Condition.lexemes, List.length_cons, List.length_append, List.length_nil] at hn
    obtain ⟨n, rfl⟩ : ∃ m, n = m + 1 := ⟨n - 1, by omega⟩
    have hleft := ihl hc.1 k n (by omega) (closes_cons rfl
      (r.lexemes (k + l.values.length) ++ .closing :: rest) (l := .keyword .or))
    have hright := ihr hc.2 (k + l.values.length) n (by omega) (ends_closing rest).closes
    have hor := negation_parentheses (disjunction_or hleft hright (ends_closing rest)) h
    simpa [Condition.lexemes, Condition.numbered] using hor
  | notTrue c ih =>
    simp only [Condition.lexemes, List.length_cons, List.length_append, List.length_nil] at hn
    obtain ⟨n, rfl⟩ : ∃ m, n = m + 1 := ⟨n - 1, by omega⟩
    have hends := ends_comma (.keyword .false :: .closing :: rest)
    have hinner := expression_of_negation (ih hc k n (by omega) hends.closes) hends
    have hnot := negation_notTrue hinner h
    simpa [Condition.lexemes, Condition.numbered] using hnot

/-- The text of a condition is read as what is meant, in every dialect. -/
theorem read_writeTokens (d : Dialect) {c : Condition} (hc : c.Listing) :
    read d (writeTokens d 0 c.tokens) = some (c.numbered 0) := by
  have hnegation := negation_condition hc 0 (c.lexemes 0).length (Nat.le_refl _) ends_nil.closes
  have hexpression := expression_of_negation hnegation ends_nil
  rw [List.append_nil] at hexpression
  rw [read, lex_tokens]
  simp only [hexpression]

end EntityQuery.Sql

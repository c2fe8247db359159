import EntityQuery.Proofs.Sql.Columns
import EntityQuery.Proofs.Sql.Numbering

/-!
# Qualified columns

The columns of a text are read off its pieces (`columnsIn`): a column is a name and the names that follow it,
each after a dot. To qualify a text by more names is to put these, with a dot after each, in front of every
name that a column starts with, and to leave all other pieces as they are (`qualify`). Pieces say how they are
spelled, so that this is also said of texts (`spell`).

The text of a condition whose columns all have further to go is the text of the condition, qualified by the
names on the way (`qualify_condition`), and its columns are those that the condition writes
(`columnsIn_condition`). Both hold part by part, since only columns have dots in them (`Qualified`).
-/

namespace EntityQuery.Sql

/-! ### Spelling -/

/-- How a piece is spelled. -/
def Piece.chars (d : Dialect) : Piece → List Char
  | name s => d.quoteChars s.toList
  | text s => '\'' :: s.toList.flatMap (fun c => if c = '\'' then [c, c] else [c]) ++ ['\'']
  | placeholder n => (d.placeholder n).toList
  | plain c => [c]

/-- The text that has these pieces. -/
def spell (d : Dialect) (ps : List Piece) : String := .ofList (ps.flatMap (Piece.chars d))

theorem spell_append (d : Dialect) (ps qs : List Piece) : spell d (ps ++ qs) = spell d ps ++ spell d qs := by
  rw [spell, List.flatMap_append, String.ofList_append]
  rfl

theorem spell_textPieces (d : Dialect) (s : String) : spell d (textPieces s) = s := by
  rw [textPieces]
  split
  · rename_i h
    rw [h]
    rfl
  · rw [spell, List.flatMap_map]
    show String.ofList (s.toList.flatMap fun c => [c]) = s
    rw [List.flatMap_singleton', String.ofList_toList]

/-- The pieces of tokens are spelled as the tokens are written. -/
theorem spell_pieces (d : Dialect) (k : Nat) (ts : List Token) : spell d (pieces k ts) = writeTokens d k ts := by
  induction ts generalizing k with
  | nil => rfl
  | cons t ts ih =>
    cases t with
    | text s => rw [pieces, spell_append, spell_textPieces, ih, writeTokens]
    | identifier name =>
      rw [pieces, ← List.singleton_append, spell_append, ih, writeTokens, spell, List.flatMap_singleton]
      rfl
    | placeholder v =>
      rw [pieces, ← List.singleton_append, spell_append, ih, writeTokens, spell, List.flatMap_singleton,
        Piece.chars, String.ofList_toList]

/-! ### Columns among pieces -/

/-- Names with a dot after each. -/
def qualifier (labels : List String) : List Piece := labels.flatMap fun l => [.name l, .plain '.']

/-- The pieces with more names in front of every column. A name that follows a dot does not start a column. -/
def qualify (labels : List String) : List Piece → List Piece
  | .plain '.' :: .name s :: rest => .plain '.' :: .name s :: qualify labels rest
  | .name s :: rest => qualifier labels ++ .name s :: qualify labels rest
  | p :: rest => p :: qualify labels rest
  | [] => []

/-- The names with which a column goes on, each after a dot. -/
def continued : List Piece → List String
  | .plain '.' :: .name s :: rest => s :: continued rest
  | _ => []

/-- The columns among pieces, each with all of its names, in their order. -/
def columnsIn : List Piece → List (List String)
  | .plain '.' :: .name _ :: rest => columnsIn rest
  | .name s :: rest => (s :: continued rest) :: columnsIn rest
  | _ :: rest => columnsIn rest
  | [] => []

/-- Whether a piece is neither a name nor a dot. -/
def Piece.apart : Piece → Bool
  | name _ => false
  | plain c => c != '.'
  | text _ | placeholder _ => true

variable {labels : List String} {ps rest : List Piece}

/-- Pieces that are apart from columns stay as they are, no column goes on with them, and none is among them. -/
theorem apart_append (labels : List String) (h : ∀ p ∈ ps, p.apart = true) :
    qualify labels (ps ++ rest) = ps ++ qualify labels rest ∧
      (continued rest = [] → continued (ps ++ rest) = []) ∧ columnsIn (ps ++ rest) = columnsIn rest := by
  induction ps with
  | nil => exact ⟨rfl, id, rfl⟩
  | cons p ps ih =>
    obtain ⟨hp, hps⟩ := List.forall_mem_cons.mp h
    obtain ⟨hqualify, -, hcolumns⟩ := ih hps
    cases p with
    | name s => cases hp
    | text s | placeholder n => simp [qualify, continued, columnsIn, hqualify, hcolumns]
    | plain c =>
      have hdot : c ≠ '.' := by simpa [Piece.apart] using hp
      simp [qualify, continued, columnsIn, hdot, hqualify, hcolumns]

/-! ### One column -/

theorem qualifier_cons (l : String) (labels : List String) :
    qualifier (l :: labels) = .name l :: .plain '.' :: qualifier labels := rfl

theorem qualifier_append (labels more : List String) :
    qualifier (labels ++ more) = qualifier labels ++ qualifier more :=
  List.flatMap_append

/-- What follows the first name of a column is not qualified, and belongs to it. -/
theorem dot_append (labels path : List String) (name : String) (rest : List Piece) :
    qualify labels (.plain '.' :: (qualifier path ++ .name name :: rest)) =
        .plain '.' :: (qualifier path ++ .name name :: qualify labels rest) ∧
      continued (.plain '.' :: (qualifier path ++ .name name :: rest)) = path ++ name :: continued rest ∧
      columnsIn (.plain '.' :: (qualifier path ++ .name name :: rest)) = columnsIn rest := by
  induction path with
  | nil => simp [qualifier, qualify, continued, columnsIn]
  | cons s path ih =>
    obtain ⟨hqualify, hcontinued, hcolumns⟩ := ih
    simp [qualifier_cons, qualify, continued, columnsIn, hqualify, hcontinued, hcolumns]

/-- A column is qualified in front of the names that it has already, and it is read with all of them. -/
theorem column_append (labels path : List String) (name : String) (rest : List Piece) :
    qualify labels (qualifier path ++ .name name :: rest) =
        qualifier (labels ++ path) ++ .name name :: qualify labels rest ∧
      continued (qualifier path ++ .name name :: rest) = [] ∧
      columnsIn (qualifier path ++ .name name :: rest) = (path ++ name :: continued rest) :: columnsIn rest := by
  cases path with
  | nil => simp [qualifier, qualify, continued, columnsIn]
  | cons s path =>
    obtain ⟨hqualify, hcontinued, hcolumns⟩ := dot_append labels path name rest
    simp [qualifier_cons, qualifier_append, qualify, continued, columnsIn, hqualify, hcontinued, hcolumns]

theorem pieces_column (k : Nat) (c : Column) : pieces k c.tokens = qualifier c.path ++ [.name c.name] := by
  obtain ⟨path, name⟩ := c
  induction path with
  | nil => rfl
  | cons s path ih => exact congrArg (fun ps => .name s :: .plain '.' :: ps) ih

/-! ### Conditions with further to go -/

/-- The column, with more names on the way to it. -/
def Column.within (labels : List String) (c : Column) : Column := ⟨labels ++ c.path, c.name⟩

/-- The scalar, with more names on the way to its column. -/
def Scalar.within (labels : List String) : Scalar → Scalar
  | column c => column (c.within labels)
  | lower c => lower (c.within labels)
  | bound v => bound v

/-- The condition, with more names on the way to each of its columns. -/
def Condition.within (labels : List String) : Condition → Condition
  | literal b => literal b
  | compare op l r => compare op (l.within labels) (r.within labels)
  | like s pattern => like (s.within labels) pattern
  | nullOr c v => nullOr (c.within labels) v
  | isIn s vs => isIn (s.within labels) vs
  | and l r => and (l.within labels) (r.within labels)
  | or l r => or (l.within labels) (r.within labels)
  | notTrue c => notTrue (c.within labels)

@[simp] theorem Column.within_nil (c : Column) : c.within [] = c := rfl

@[simp] theorem Scalar.within_nil (s : Scalar) : s.within [] = s := by cases s <;> rfl

@[simp] theorem Condition.within_nil (c : Condition) : c.within [] = c := by
  induction c with
  | literal | compare | like | nullOr | isIn => simp [within]
  | and l r ihl ihr | or l r ihl ihr => rw [within, ihl, ihr]
  | notTrue c ih => rw [within, ih]

theorem Scalar.within_within (labels more : List String) (s : Scalar) :
    (s.within labels).within more = s.within (more ++ labels) := by
  cases s <;> simp [within, Column.within]

/-- Names that are added later come further outside. -/
theorem Condition.within_within (labels more : List String) (c : Condition) :
    (c.within labels).within more = c.within (more ++ labels) := by
  induction c with
  | literal b => rfl
  | compare | like | isIn => simp [within, Scalar.within_within]
  | nullOr => simp [within, Column.within]
  | and l r ihl ihr | or l r ihl ihr => simp [within, ihl, ihr]
  | notTrue c ih => simp [within, ih]

/-- The names of a column with further to go. -/
theorem Column.names_within (labels : List String) (c : Column) : (c.within labels).names = labels ++ c.names :=
  List.append_assoc ..

theorem Scalar.columns_within (labels : List String) (s : Scalar) :
    (s.within labels).columns = s.columns.map (Column.within labels) := by
  cases s <;> rfl

theorem Condition.columns_within (labels : List String) (c : Condition) :
    (c.within labels).columns = c.columns.map (Column.within labels) := by
  induction c with
  | literal | nullOr => rfl
  | compare | like | isIn => simp [within, columns, Scalar.columns_within]
  | and l r ihl ihr | or l r ihl ihr => simp [within, columns, ihl, ihr]
  | notTrue c ih => exact ih

/-! ### Tokens of conditions with further to go -/

/-- The tokens `us` are `ts` with more names in front of each of their columns, which are `cs`. The pieces that
follow do not matter, but for going on with the last column. -/
structure Qualified (labels : List String) (ts us : List Token) (cs : List Column) : Prop where
  values_eq : boundValues us = boundValues ts
  qualify_eq (k : Nat) (rest : List Piece) :
    qualify labels (pieces k ts ++ rest) = pieces k us ++ qualify labels rest
  continued_eq (k : Nat) {rest : List Piece} (h : continued rest = []) : continued (pieces k ts ++ rest) = []
  columnsIn_eq (k : Nat) {rest : List Piece} (h : continued rest = []) :
    columnsIn (pieces k ts ++ rest) = cs.map Column.names ++ columnsIn rest

namespace Qualified

variable {ts us ts' us' : List Token} {cs cs' : List Column}

theorem append (h : Qualified labels ts us cs) (h' : Qualified labels ts' us' cs') :
    Qualified labels (ts ++ ts') (us ++ us') (cs ++ cs') where
  values_eq := by rw [boundValues_append, boundValues_append, h.values_eq, h'.values_eq]
  qualify_eq k rest := by
    rw [pieces_append, pieces_append, List.append_assoc, List.append_assoc, h.qualify_eq, h'.qualify_eq,
      h.values_eq]
  continued_eq k rest hrest := by
    rw [pieces_append, List.append_assoc]
    exact h.continued_eq k (h'.continued_eq _ hrest)
  columnsIn_eq k rest hrest := by
    rw [pieces_append, List.append_assoc, h.columnsIn_eq k (h'.continued_eq _ hrest), h'.columnsIn_eq _ hrest,
      List.map_append, List.append_assoc]

/-- Tokens without names and dots. -/
theorem apart (h : ∀ k, ∀ p ∈ pieces k ts, p.apart = true) : Qualified labels ts ts [] where
  values_eq := rfl
  qualify_eq k _ := (apart_append labels (h k)).1
  continued_eq k _ := (apart_append labels (h k)).2.1
  columnsIn_eq k _ _ := (apart_append labels (h k)).2.2

theorem nil : Qualified labels [] [] [] := apart fun _ _ hp => absurd hp List.not_mem_nil

theorem placeholder (v : Value) : Qualified labels [.placeholder v] [.placeholder v] [] :=
  apart fun _ => List.forall_mem_singleton.mpr rfl

theorem text {s : String} (h : '.' ∉ s.toList) : Qualified labels [.text s] [.text s] [] := by
  refine apart fun k p hp => ?_
  have hplain : ∀ c ∈ s.toList, (Piece.plain c).apart = true := fun c hc =>
    bne_iff_ne.mpr fun hdot => h (hdot ▸ hc)
  rw [pieces, pieces, List.append_nil, textPieces] at hp
  split at hp
  · rename_i hs
    rcases List.mem_append.mp hp with hp | hp
    · obtain ⟨c, hc, rfl⟩ := List.mem_map.mp hp
      refine hplain c ?_
      rw [hs, escapeClause, String.toList_append, String.toList_append, List.append_assoc]
      exact List.mem_append_left _ (List.mem_append_left _ hc)
    · rw [List.mem_singleton.mp hp]
      rfl
  · obtain ⟨c, hc, rfl⟩ := List.mem_map.mp hp
    exact hplain c hc

/-- Other tokens behind a text. -/
theorem after {s : String} (hs : '.' ∉ s.toList) (h : Qualified labels ts us cs) :
    Qualified labels (.text s :: ts) (.text s :: us) cs :=
  (text hs).append h

/-- Two lists of tokens with a text between them. -/
theorem between {s : String} (h : Qualified labels ts us cs) (hs : '.' ∉ s.toList)
    (h' : Qualified labels ts' us' cs') :
    Qualified labels (ts ++ .text s :: ts') (us ++ .text s :: us') (cs ++ cs') :=
  h.append (after hs h')

/-- A text at the end. -/
theorem before {s : String} (h : Qualified labels ts us cs) (hs : '.' ∉ s.toList) :
    Qualified labels (ts ++ [.text s]) (us ++ [.text s]) cs := by
  simpa using h.append (text hs)

/-- Tokens between parentheses. -/
theorem parentheses (h : Qualified labels ts us cs) :
    Qualified labels (.text "(" :: ts ++ [.text ")"]) (.text "(" :: us ++ [.text ")"]) cs :=
  after (by decide) (h.before (by decide))

variable (labels)

theorem column (c : Column) : Qualified labels c.tokens (c.within labels).tokens [c] where
  values_eq := by
    have hnone (c : Column) : boundValues c.tokens = [] := by
      obtain ⟨path, name⟩ := c
      induction path with
      | nil => rfl
      | cons s path ih => exact ih
    rw [hnone, hnone]
  qualify_eq k rest := by
    rw [pieces_column, pieces_column, List.append_assoc, List.append_assoc]
    exact (column_append labels c.path c.name rest).1
  continued_eq k rest _ := by
    rw [pieces_column, List.append_assoc]
    exact (column_append labels c.path c.name rest).2.1
  columnsIn_eq k rest hrest := by
    rw [pieces_column, List.append_assoc]
    exact (column_append labels c.path c.name rest).2.2.trans (by rw [hrest]; rfl)

theorem scalar (s : Scalar) : Qualified labels s.tokens (s.within labels).tokens s.columns := by
  cases s with
  | column c => exact column labels c
  | lower c => exact after (by decide) ((column labels c).before (by decide))
  | bound v => exact placeholder v

theorem placeholders (vs : List Value) : Qualified labels (Sql.placeholders vs) (Sql.placeholders vs) [] := by
  induction vs with
  | nil => exact nil
  | cons v vs ih =>
    cases vs with
    | nil => exact placeholder v
    | cons w vs => exact (placeholder v).between (by decide) ih

theorem condition (c : Condition) : Qualified labels c.tokens (c.within labels).tokens c.columns := by
  induction c with
  | literal b => cases b <;> exact text (by decide)
  | compare op l r =>
    have hop : '.' ∉ op.symbol.toList := by cases op <;> decide
    exact (scalar labels l).between hop (scalar labels r)
  | like s pattern =>
    have hvalue : Qualified labels [.placeholder (.string pattern)] _ [] := placeholder _
    have hpattern := hvalue.before (s := " ESCAPE '" ++ likeEscape.toString ++ "'") (by decide)
    simpa [Condition.tokens, Condition.within, Condition.columns] using
      (scalar labels s).between (s := " LIKE ") (by decide) hpattern
  | nullOr c v =>
    have hequal := (column labels c).between (s := " = ") (by decide) (placeholder v)
    have hnull := (column labels c).between (s := " IS NULL OR ") (by decide) hequal
    simpa [Condition.tokens, Condition.within, Condition.columns] using hnull.parentheses
  | isIn s vs =>
    have hlist := (placeholders labels vs).before (s := ")") (by decide)
    simpa [Condition.tokens, Condition.within, Condition.columns] using
      (scalar labels s).between (s := " IN (") (by decide) hlist
  | and l r ihl ihr =>
    have hboth := ihl.between (s := " AND ") (by decide) ihr
    simpa [Condition.tokens, Condition.within, Condition.columns] using hboth.parentheses
  | or l r ihl ihr =>
    have hboth := ihl.between (s := " OR ") (by decide) ihr
    simpa [Condition.tokens, Condition.within, Condition.columns] using hboth.parentheses
  | notTrue c ih => exact after (by decide) (ih.before (by decide))

end Qualified

/-- A condition with further to go binds the same values. -/
theorem boundValues_within (labels : List String) (c : Condition) :
    boundValues (c.within labels).tokens = boundValues c.tokens :=
  (Qualified.condition labels c).values_eq

/-- The pieces of a condition with further to go are those of the condition, qualified. -/
theorem qualify_condition (labels : List String) (k : Nat) (c : Condition) :
    qualify labels (pieces k c.tokens) = pieces k (c.within labels).tokens := by
  have h := (Qualified.condition labels c).qualify_eq k []
  rwa [List.append_nil, qualify, List.append_nil] at h

/-- The columns that are read are those that are written. -/
theorem columnsIn_condition (k : Nat) (c : Condition) :
    columnsIn (pieces k c.tokens) = c.columns.map Column.names := by
  have h := (Qualified.condition [] c).columnsIn_eq k (show continued [] = [] from rfl)
  rwa [List.append_nil, columnsIn, List.append_nil] at h

/-- Once a condition is qualified, each of its columns is read with the names in front. -/
theorem columnsIn_qualify (labels : List String) (k : Nat) (c : Condition) :
    columnsIn (qualify labels (pieces k c.tokens)) = (columnsIn (pieces k c.tokens)).map (labels ++ ·) := by
  rw [qualify_condition, columnsIn_condition, columnsIn_condition, Condition.columns_within, List.map_map,
    List.map_map]
  exact List.map_congr_left fun col _ => Column.names_within labels col

end EntityQuery.Sql

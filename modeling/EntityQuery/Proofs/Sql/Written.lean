import EntityQuery.Proofs.Sql.Lexeme

/-!
# What is written for conditions

A condition is written as tokens, and its text is read back as the words that are meant (`lex_tokens`): no
word runs into the next one, identifiers are told apart from everything else, and the placeholders come in
the order of the values that are bound to them. The fixed texts between identifiers and placeholders are
read one by one (`Reads`), and a text after tokens ends the last word of theirs (`Writes.followed`).
-/

namespace EntityQuery.Sql

/-! ### Fixed texts -/

/-- Lexemes that are put in front of what is read, and others in front of these. -/
theorem map_append_map (read : Option (List Lexeme)) (ls ms : List Lexeme) :
    (read.map (ms ++ ·)).map (ls ++ ·) = read.map (ls ++ ms ++ ·) := by
  rw [Option.map_map]
  congr 1
  funext ns
  exact (List.append_assoc ls ms ns).symm

/-- A text is read as these lexemes, whatever follows it. -/
def Reads (s : List Char) (ls : List Lexeme) : Prop :=
  ∀ d k rest, lex d k (s ++ rest) = (lex d k rest).map (ls ++ ·)

namespace Reads

variable {s t : List Char} {ls : List Lexeme}

theorem nil : Reads [] [] := by
  intro d k rest
  simp

theorem blank (h : Reads s ls) : Reads (' ' :: s) ls := by
  intro d k rest
  rw [List.cons_append, lex_blank, h]

/-- A sign in front of a text. -/
theorem sign {c : Char} {l : Lexeme} (h : Reads t ls) (hc : c ≠ ' ') (hl : l.placeholders = 0)
    (hscan : ∀ d k rest, scan d k c (s ++ rest) = some (l, t ++ rest)) : Reads (c :: s) (l :: ls) := by
  intro d k rest
  rw [List.cons_append, lex_of_scan hc (hscan d k rest), hl, Nat.add_zero, h, Option.map_map]
  rfl

/-- A keyword in front of a text that ends it. -/
theorem word (w : Keyword) (h : Reads s ls) (hs : ∃ c ∈ s.head?, c ∈ [' ', '(', ')', ',', '.']) :
    Reads (w.word.toList ++ s) (.keyword w :: ls) := by
  intro d k rest
  obtain ⟨c, hc, hbreak⟩ := hs
  have hrest : Breaks (s ++ rest) := by
    cases s with
    | nil => cases hc
    | cons c' tail =>
      obtain rfl : c' = c := Option.some.inj hc
      exact breaks_cons hbreak
  rw [List.append_assoc, lex_keyword d k w hrest, h, Option.map_map]
  rfl

theorem opening : Reads "(".toList [.opening] :=
  sign nil (by decide) rfl fun _ _ _ => rfl

theorem closing : Reads ")".toList [.closing] :=
  sign nil (by decide) rfl fun _ _ _ => rfl

theorem dot : Reads ".".toList [.dot] :=
  sign nil (by decide) rfl fun _ _ _ => rfl

theorem comma : Reads ", ".toList [.comma] :=
  sign (blank nil) (by decide) rfl fun _ _ _ => rfl

theorem between (w : Keyword) : Reads (' ' :: (w.word.toList ++ [' '])) [.keyword w] :=
  blank (word w (blank nil) ⟨' ', rfl, by decide⟩)

theorem call (w : Keyword) : Reads (w.word.toList ++ ['(']) [.keyword w, .opening] :=
  word w opening ⟨'(', rfl, by decide⟩

theorem and : Reads " AND ".toList [.keyword .and] := between .and

theorem or : Reads " OR ".toList [.keyword .or] := between .or

theorem like : Reads " LIKE ".toList [.keyword .like] := between .like

theorem lower : Reads "LOWER(".toList [.keyword .lower, .opening] := call .lower

theorem symbol (op : Comparison) : Reads op.symbol.toList [.comparison op] := by
  cases op with
  | eq | lt | gt => exact blank (sign (blank nil) (by decide) rfl fun _ _ _ => rfl)
  | lte => exact blank (sign (s := "= ".toList) (blank nil) (by decide) rfl fun _ _ _ => rfl)
  | gte => exact blank (sign (s := "= ".toList) (blank nil) (by decide) rfl fun _ _ _ => rfl)

theorem isNullOr : Reads " IS NULL OR ".toList [.keyword .is, .keyword .null, .keyword .or] :=
  blank (word .is (blank (word .null (between .or) ⟨' ', rfl, by decide⟩)) ⟨' ', rfl, by decide⟩)

theorem isIn : Reads " IN (".toList [.keyword .within, .opening] :=
  blank (word .within (blank opening) ⟨' ', rfl, by decide⟩)

theorem notCoalesce : Reads "NOT COALESCE(".toList [.keyword .not, .keyword .coalesce, .opening] :=
  word .not (blank (call .coalesce)) ⟨' ', rfl, by decide⟩

theorem orFalse : Reads ", FALSE)".toList [.comma, .keyword .false, .closing] :=
  sign (blank (word .false closing ⟨')', rfl, by decide⟩)) (by decide) rfl fun _ _ _ => rfl

end Reads

/-! ### Values bound -/

/-- The values that a scalar binds. -/
def Scalar.values : Scalar → List Value
  | column _ | lower _ => []
  | bound v => [v]

/-- The values that a condition binds, in the order of their placeholders. -/
def Condition.values : Condition → List Value
  | literal _ => []
  | compare _ l r => l.values ++ r.values
  | like s pattern => s.values ++ [.string pattern]
  | nullOr _ v => [v]
  | isIn s vs => s.values ++ vs
  | and l r | or l r => l.values ++ r.values
  | notTrue c => c.values

@[simp] theorem boundValues_text (s : String) (ts : List Token) :
    boundValues (.text s :: ts) = boundValues ts := rfl

@[simp] theorem boundValues_identifier (name : String) (ts : List Token) :
    boundValues (.identifier name :: ts) = boundValues ts := rfl

@[simp] theorem boundValues_placeholder (v : Value) (ts : List Token) :
    boundValues (.placeholder v :: ts) = v :: boundValues ts := rfl

@[simp] theorem boundValues_column (c : Column) : boundValues c.tokens = [] := by
  have hpath : boundValues (c.path.flatMap fun s => [.identifier s, .text "."]) = [] := by
    induction c.path with
    | nil => rfl
    | cons s rest ih => simpa using ih
  simp [Column.tokens, hpath]

@[simp] theorem boundValues_scalar (s : Scalar) : boundValues s.tokens = s.values := by
  cases s <;> simp [Scalar.tokens, Scalar.values]

@[simp] theorem boundValues_placeholders (vs : List Value) : boundValues (placeholders vs) = vs := by
  induction vs with
  | nil => rfl
  | cons v rest ih => cases rest <;> simp_all [placeholders]

@[simp] theorem boundValues_condition (c : Condition) : boundValues c.tokens = c.values := by
  induction c with
  | literal b => rfl
  | compare | like | nullOr | isIn => simp [Condition.tokens, Condition.values]
  | and l r ihl ihr | or l r ihl ihr => simp [Condition.tokens, Condition.values, ihl, ihr]
  | notTrue c ih => simp [Condition.tokens, Condition.values, ih]

/-! ### Conditions -/

/-- The lexemes of a column. -/
def Column.lexemes (c : Column) : List Lexeme :=
  c.path.flatMap (fun s => [.name s, .dot]) ++ [.name c.name]

/-- The lexemes of a scalar after `k` placeholders. -/
def Scalar.lexemes (k : Nat) : Scalar → List Lexeme
  | column c => c.lexemes
  | lower c => .keyword .lower :: .opening :: (c.lexemes ++ [.closing])
  | bound _ => [.parameter (k + 1)]

/-- Placeholders with commas between them, after `k` others. -/
def parameterLexemes (k : Nat) : List Value → List Lexeme
  | [] => []
  | [_] => [.parameter (k + 1)]
  | _ :: rest => .parameter (k + 1) :: .comma :: parameterLexemes (k + 1) rest

/-- The lexemes of a condition after `k` placeholders. -/
def Condition.lexemes (k : Nat) : Condition → List Lexeme
  | literal b => [.keyword (if b then .true else .false)]
  | compare op l r => l.lexemes k ++ .comparison op :: r.lexemes (k + l.values.length)
  | like s _ =>
    s.lexemes k ++ [.keyword .like, .parameter (k + s.values.length + 1), .keyword .escape,
      .text likeEscape.toString]
  | nullOr c _ =>
    .opening :: (c.lexemes ++ .keyword .is :: .keyword .null :: .keyword .or :: (c.lexemes ++
      [.comparison .eq, .parameter (k + 1), .closing]))
  | isIn s vs =>
    s.lexemes k ++ .keyword .within :: .opening ::
      (parameterLexemes (k + s.values.length) vs ++ [.closing])
  | and l r =>
    .opening :: (l.lexemes k ++ .keyword .and :: (r.lexemes (k + l.values.length) ++ [.closing]))
  | or l r =>
    .opening :: (l.lexemes k ++ .keyword .or :: (r.lexemes (k + l.values.length) ++ [.closing]))
  | notTrue c =>
    .keyword .not :: .keyword .coalesce :: .opening ::
      (c.lexemes k ++ [.comma, .keyword .false, .closing])

/-- What is written for tokens after `k` placeholders is read as these lexemes. -/
def Writes (k : Nat) (ts : List Token) (ls : List Lexeme) : Prop :=
  ∀ d rest, Breaks rest → lex d k ((writeTokens d k ts).toList ++ rest) =
    (lex d (k + (boundValues ts).length) rest).map (ls ++ ·)

/-- The tokens start with a text that ends words. -/
def Separates (ts : List Token) : Prop :=
  ∃ s rest, ts = .text s :: rest ∧ ∃ c ∈ s.toList.head?, c ∈ [' ', '(', ')', ',', '.']

namespace Writes

variable {k : Nat} {ts us : List Token} {ls ms : List Lexeme}

theorem text {s : String} (h : Reads s.toList ls) (hts : Writes k ts ms) :
    Writes k (.text s :: ts) (ls ++ ms) := by
  intro d rest hrest
  rw [writeTokens, String.toList_append, List.append_assoc, h, hts d rest hrest, map_append_map,
    boundValues_text]

theorem nil : Writes k [] [] := by
  intro d rest _
  simp [writeTokens]

theorem append (h : Writes k ts ls) (hus : Writes (k + (boundValues ts).length) us ms)
    (hs : Separates us) : Writes k (ts ++ us) (ls ++ ms) := by
  intro d rest hrest
  have hbreak : Breaks ((writeTokens d (k + (boundValues ts).length) us).toList ++ rest) := by
    obtain ⟨s, vs, rfl, c, hc, hmem⟩ := hs
    rw [writeTokens, String.toList_append, List.append_assoc]
    cases hlist : s.toList with
    | nil =>
      rw [hlist] at hc
      cases hc
    | cons c' tail =>
      rw [hlist] at hc
      obtain rfl : c' = c := Option.some.inj hc
      exact breaks_cons hmem
  rw [writeTokens_append, String.toList_append, List.append_assoc, h d _ hbreak, hus d rest hrest,
    map_append_map, boundValues_append, List.length_append, Nat.add_assoc]

theorem identifier (name : String) : Writes k [.identifier name] [.name name] := by
  intro d rest hrest
  rw [writeTokens, writeTokens, String.append_empty, lex_name d k name hrest]
  rfl

theorem placeholder (v : Value) : Writes k [.placeholder v] [.parameter (k + 1)] := by
  intro d rest hrest
  rw [writeTokens, writeTokens, String.append_empty, lex_placeholder d k hrest]
  rfl

theorem keyword (w : Keyword) : Writes k [.text w.word] [.keyword w] := by
  intro d rest hrest
  rw [writeTokens, writeTokens, String.append_empty, lex_keyword d k w hrest]
  rfl

/-- A fixed text after other tokens. -/
theorem followed {s : String} {ns : List Lexeme} (h : Writes k ts ls) (hr : Reads s.toList ms)
    (hs : ∃ c ∈ s.toList.head?, c ∈ [' ', '(', ')', ',', '.'])
    (hus : Writes (k + (boundValues ts).length) us ns) :
    Writes k (ts ++ .text s :: us) (ls ++ (ms ++ ns)) :=
  append h (text hr hus) ⟨s, us, rfl, hs⟩

theorem column (c : Column) : Writes k c.tokens c.lexemes := by
  obtain ⟨path, name⟩ := c
  show Writes k (path.flatMap _ ++ _) (path.flatMap _ ++ _)
  induction path with
  | nil => exact identifier name
  | cons s rest ih =>
    have h := followed (identifier s) Reads.dot ⟨'.', rfl, by decide⟩ ih
    simpa using h

/-- A column binds nothing. -/
theorem columnFollowed (c : Column) {s : String} {ns : List Lexeme} (hr : Reads s.toList ms)
    (hs : ∃ c ∈ s.toList.head?, c ∈ [' ', '(', ')', ',', '.']) (hus : Writes k us ns) :
    Writes k (c.tokens ++ .text s :: us) (c.lexemes ++ (ms ++ ns)) := by
  refine followed (column c) hr hs ?_
  rwa [boundValues_column]

theorem scalar (s : Scalar) : Writes k s.tokens (s.lexemes k) := by
  cases s with
  | column c => exact column c
  | bound v => exact placeholder v
  | lower c =>
    have h := columnFollowed c Reads.closing ⟨')', rfl, by decide⟩ nil (k := k)
    exact text Reads.lower h

theorem parameters (vs : List Value) : Writes k (placeholders vs) (parameterLexemes k vs) := by
  induction vs generalizing k with
  | nil => exact nil
  | cons v rest ih =>
    cases rest with
    | nil => exact placeholder v
    | cons w rest =>
      have h := followed (placeholder v) Reads.comma ⟨',', rfl, by decide⟩ ih (k := k)
      exact h

/-- The end of a comparison with a pattern. -/
theorem escape : Writes k [.text (" ESCAPE '" ++ likeEscape.toString ++ "'")]
    [.keyword .escape, .text likeEscape.toString] := by
  intro d rest hrest
  have hquote : ∀ c ∈ rest.head?, c ≠ '\'' := by
    rintro c hc rfl
    exact absurd (hrest _ hc) (by decide)
  have hread : readQuoted '\'' ('!' :: '\'' :: rest) = some (['!'], rest) := by
    rw [readQuoted_of_ne (by decide), readQuoted_end hquote]
    rfl
  have hscan : ∀ d k, scan d k '\'' ('!' :: '\'' :: rest) = some (.text "!", rest) := by
    intro d k
    rw [scan, hread]
    rfl
  have hlex : ∀ d k, lex d k ('\'' :: '!' :: '\'' :: rest) = (lex d k rest).map (.text "!" :: ·) := by
    intro d k
    rw [lex_of_scan (by decide) (hscan d k)]
    rfl
  have hbreak : Breaks (' ' :: '\'' :: '!' :: '\'' :: rest) := breaks_cons (by decide)
  have hwritten : (writeTokens d k [.text (" ESCAPE '" ++ likeEscape.toString ++ "'")]).toList ++ rest =
      ' ' :: (Keyword.escape.word.toList ++ ' ' :: '\'' :: '!' :: '\'' :: rest) := by
    rw [writeTokens, writeTokens, String.append_empty]
    rfl
  rw [hwritten, lex_blank, lex_keyword d k .escape hbreak, lex_blank, hlex, Option.map_map]
  rfl

/-- What is written for a condition is read as its lexemes. -/
theorem condition (c : Condition) : Writes k c.tokens (c.lexemes k) := by
  induction c generalizing k with
  | literal b =>
    cases b with
    | true => exact keyword .true
    | false => exact keyword .false
  | compare op l r =>
    have hop : ∃ c ∈ op.symbol.toList.head?, c ∈ [' ', '(', ')', ',', '.'] := by
      cases op <;> exact ⟨' ', rfl, by decide⟩
    have h := followed (scalar l) (Reads.symbol op) hop (scalar r) (k := k)
    rw [boundValues_scalar] at h
    exact h
  | like s pattern =>
    have h := followed (scalar s) Reads.like ⟨' ', rfl, by decide⟩
      (append (placeholder (.string pattern)) escape ⟨_, _, rfl, ' ', rfl, by decide⟩) (k := k)
    rw [boundValues_scalar] at h
    exact h
  | nullOr c v =>
    have hclose := followed (placeholder v) Reads.closing ⟨')', rfl, by decide⟩ nil (k := k)
    have hequal := columnFollowed c (Reads.symbol .eq) ⟨' ', rfl, by decide⟩ hclose
    have h := text Reads.opening (columnFollowed c Reads.isNullOr ⟨' ', rfl, by decide⟩ hequal)
    simpa [Condition.tokens, Condition.lexemes, Comparison.symbol] using h
  | isIn s vs =>
    have hclose := followed (parameters vs) Reads.closing ⟨')', rfl, by decide⟩ nil
      (k := k + s.values.length)
    have h := followed (scalar s) Reads.isIn ⟨' ', rfl, by decide⟩ (by rwa [boundValues_scalar])
    simpa [Condition.tokens, Condition.lexemes] using h
  | and l r ihl ihr =>
    have hclose := followed ihr Reads.closing ⟨')', rfl, by decide⟩ nil (k := k + l.values.length)
    have h := text Reads.opening
      (followed ihl Reads.and ⟨' ', rfl, by decide⟩ (by rwa [boundValues_condition]))
    simpa [Condition.tokens, Condition.lexemes] using h
  | or l r ihl ihr =>
    have hclose := followed ihr Reads.closing ⟨')', rfl, by decide⟩ nil (k := k + l.values.length)
    have h := text Reads.opening
      (followed ihl Reads.or ⟨' ', rfl, by decide⟩ (by rwa [boundValues_condition]))
    simpa [Condition.tokens, Condition.lexemes] using h
  | notTrue c ih =>
    have h := text Reads.notCoalesce (followed ih Reads.orFalse ⟨',', rfl, by decide⟩ nil (k := k))
    simpa [Condition.tokens, Condition.lexemes] using h

end Writes

/-- The text of a condition alone is read as its lexemes. -/
theorem lex_tokens (d : Dialect) (c : Condition) :
    lex d 0 (writeTokens d 0 c.tokens).toList = some (c.lexemes 0) := by
  have h := Writes.condition c (k := 0) d [] breaks_nil
  simpa using h

end EntityQuery.Sql

import EntityQuery.Proofs.People
import EntityQuery.Proofs.Sql.Columns
import EntityQuery.Proofs.Sql.Piece
import EntityQuery.Proofs.Sql.Written
import EntityQuery.Sql.Page

/-!
# Names and placeholders in rendered text

Whatever characters the names of properties and the labels of projections are made of, the rules for quotes
take a rendered condition apart into those names, placeholders for exactly the bound values, and fixed text,
and into the same pieces in every dialect (`render_pieces`). The clause of a page goes on numbering where the
condition ends, so the two can be put into one statement.

The tokens of conditions do not run into each other, since each of their fixed texts has a separator wherever
a name or a placeholder is next to it (`Readable.condition`).
-/

namespace EntityQuery

variable {S : Schema}

namespace Sql

/-! ### Names -/

/-- The names that tokens quote. -/
def identifiers (ts : List Token) : List String :=
  ts.filterMap fun
    | .identifier name => some name
    | _ => none

@[simp] theorem identifiers_append (ts us : List Token) :
    identifiers (ts ++ us) = identifiers ts ++ identifiers us := by
  simp [identifiers]

@[simp] theorem identifiers_nil : identifiers [] = [] := rfl

@[simp] theorem identifiers_text (s : String) (ts : List Token) :
    identifiers (.text s :: ts) = identifiers ts := rfl

@[simp] theorem identifiers_identifier (name : String) (ts : List Token) :
    identifiers (.identifier name :: ts) = name :: identifiers ts := rfl

@[simp] theorem identifiers_placeholder (v : Value) (ts : List Token) :
    identifiers (.placeholder v :: ts) = identifiers ts := rfl

@[simp] theorem identifiers_placeholders (vs : List Value) : identifiers (placeholders vs) = [] := by
  induction vs with
  | nil => rfl
  | cons v rest ih => cases rest <;> simp_all [placeholders]

/-- The names of a column, from the way to it to its own. -/
def Column.names (c : Column) : List String := c.path ++ [c.name]

@[simp] theorem identifiers_column (c : Column) : identifiers c.tokens = c.names := by
  have hpath : identifiers (c.path.flatMap fun s => [.identifier s, .text "."]) = c.path := by
    induction c.path with
    | nil => rfl
    | cons s rest ih => simpa using ih
  simp [Column.tokens, Column.names, hpath]

@[simp] theorem identifiers_scalar (s : Scalar) : identifiers s.tokens = s.columns.flatMap Column.names := by
  cases s <;> simp [Scalar.tokens, Scalar.columns]

/-- A condition quotes the names of its columns. -/
theorem identifiers_condition (c : Condition) :
    identifiers c.tokens = c.columns.flatMap Column.names := by
  induction c with
  | literal b => rfl
  | compare | like | nullOr | isIn => simp [Condition.tokens, Condition.columns]
  | and l r ihl ihr | or l r ihl ihr => simp [Condition.tokens, Condition.columns, ihl, ihr]
  | notTrue c ih => simp [Condition.tokens, Condition.columns, ih]

/-- A fixed text is neither names nor placeholders. -/
theorem filterMap_textPieces {α : Type} {f : Piece → Option α} (hplain : ∀ c, f (.plain c) = none)
    (htext : ∀ w, f (.text w) = none) (s : String) : (textPieces s).filterMap f = [] := by
  rw [List.filterMap_eq_nil_iff]
  intro p hp
  rw [textPieces] at hp
  split at hp
  · rcases List.mem_append.mp hp with hp | hp
    · obtain ⟨c, -, rfl⟩ := List.mem_map.mp hp
      exact hplain c
    · rw [List.mem_singleton.mp hp]
      exact htext _
  · obtain ⟨c, -, rfl⟩ := List.mem_map.mp hp
    exact hplain c

/-- The names among the pieces are those that the tokens quote. -/
theorem namesIn_pieces (k : Nat) (ts : List Token) : namesIn (pieces k ts) = identifiers ts := by
  induction ts generalizing k with
  | nil => rfl
  | cons t ts ih =>
    cases t with
    | text s =>
      rw [pieces, namesIn, List.filterMap_append, filterMap_textPieces (fun _ => rfl) (fun _ => rfl),
        ← namesIn, ih, identifiers_text, List.nil_append]
    | identifier name => exact congrArg (name :: ·) (ih k)
    | placeholder v => exact ih (k + 1)

/-- The placeholders are numbered one by one. -/
theorem numbersIn_pieces (k : Nat) (ts : List Token) :
    numbersIn (pieces k ts) = List.range' (k + 1) (boundValues ts).length := by
  induction ts generalizing k with
  | nil => rfl
  | cons t ts ih =>
    cases t with
    | text s =>
      rw [pieces, numbersIn, List.filterMap_append, filterMap_textPieces (fun _ => rfl) (fun _ => rfl),
        ← numbersIn, ih, boundValues_text, List.nil_append]
    | identifier name => exact ih k
    | placeholder v =>
      rw [boundValues_placeholder, List.length_cons, List.range'_succ, ← ih (k + 1)]
      rfl

theorem pieces_append (k : Nat) (ts us : List Token) :
    pieces k (ts ++ us) = pieces k ts ++ pieces (k + (boundValues ts).length) us := by
  induction ts generalizing k with
  | nil => rfl
  | cons t ts ih =>
    cases t with
    | text s => rw [List.cons_append, pieces, pieces, ih, boundValues_text, List.append_assoc]
    | identifier name => exact congrArg (Piece.name name :: ·) (ih k)
    | placeholder v =>
      rw [List.cons_append, pieces, pieces, ih, boundValues_placeholder, List.length_cons, List.cons_append,
        Nat.add_right_comm, Nat.add_assoc]

/-! ### Tokens of conditions -/

namespace Readable

variable {ts us : List Token} {s : String}

theorem nil : Readable [] := ⟨List.IsChain.nil, fun _ ht => absurd ht List.not_mem_nil⟩

theorem single {t : Token} (h : t.Legible) : Readable [t] :=
  ⟨List.IsChain.singleton t, List.forall_mem_singleton.mpr h⟩

theorem identifier (name : String) : Readable [.identifier name] := single trivial

theorem placeholder (v : Value) : Readable [.placeholder v] := single trivial

/-- A text that closes, in front of other tokens. -/
theorem after (h : (Token.text s).Legible) (hc : (Token.text s).closes = true) (hus : Readable us) :
    Readable (.text s :: us) :=
  ⟨List.isChain_cons.mpr ⟨fun _ _ => .inl hc, hus.spaced⟩, List.forall_mem_cons.mpr ⟨h, hus.legible⟩⟩

/-- Other tokens behind a text that opens. -/
theorem append (hts : Readable ts) (ho : (Token.text s).opens = true) (hus : Readable (.text s :: us)) :
    Readable (ts ++ .text s :: us) := by
  refine ⟨List.IsChain.append hts.spaced hus.spaced fun _ _ u hu => .inr ?_,
    List.forall_mem_append.mpr ⟨hts.legible, hus.legible⟩⟩
  cases hu
  exact ho

/-- A text that opens, behind other tokens. -/
theorem before (hts : Readable ts) (h : (Token.text s).Legible) (ho : (Token.text s).opens = true) :
    Readable (ts ++ [.text s]) :=
  append hts ho (single h)

/-- A text that opens and closes, between other tokens. -/
theorem between (hts : Readable ts) (h : (Token.text s).Legible) (ho : (Token.text s).opens = true)
    (hc : (Token.text s).closes = true) (hus : Readable us) : Readable (ts ++ .text s :: us) :=
  append hts ho (after h hc hus)

theorem column (c : Column) : Readable c.tokens := by
  obtain ⟨path, name⟩ := c
  show Readable (path.flatMap _ ++ _)
  induction path with
  | nil => exact identifier name
  | cons s rest ih => exact between (identifier s) (.inr (by decide)) rfl rfl ih

theorem scalar (s : Scalar) : Readable s.tokens := by
  cases s with
  | column c => exact column c
  | lower c => exact after (.inr (by decide)) rfl (before (column c) (.inr (by decide)) rfl)
  | bound v => exact placeholder v

theorem placeholders (vs : List Value) : Readable (Sql.placeholders vs) := by
  induction vs with
  | nil => exact nil
  | cons v rest ih =>
    cases rest with
    | nil => exact placeholder v
    | cons w rest => exact between (placeholder v) (.inr (by decide)) rfl rfl ih

/-- What stands between parentheses. -/
theorem parentheses (hts : Readable ts) : Readable (.text "(" :: ts ++ [.text ")"]) :=
  after (.inr (by decide)) rfl (before hts (.inr (by decide)) rfl)

theorem condition (c : Condition) : Readable c.tokens := by
  induction c with
  | literal b =>
    cases b with
    | true => exact single (.inr (by decide))
    | false => exact single (.inr (by decide))
  | compare op l r =>
    have hop : (Token.text op.symbol).Legible ∧ (Token.text op.symbol).opens = true ∧
        (Token.text op.symbol).closes = true := by
      cases op <;> exact ⟨.inr (by decide), rfl, rfl⟩
    exact between (scalar l) hop.1 hop.2.1 hop.2.2 (scalar r)
  | like s pattern =>
    exact between (scalar s) (.inr (by decide)) rfl rfl
      (before (placeholder (.string pattern)) (.inl rfl) rfl)
  | nullOr c v =>
    have hequal := between (column c) (s := " = ") (.inr (by decide)) rfl rfl (placeholder v)
    have hnull := between (column c) (s := " IS NULL OR ") (.inr (by decide)) rfl rfl hequal
    simpa [Condition.tokens] using parentheses hnull
  | isIn s vs =>
    have hlist := before (placeholders vs) (s := ")") (.inr (by decide)) rfl
    simpa [Condition.tokens] using between (scalar s) (s := " IN (") (.inr (by decide)) rfl rfl hlist
  | and l r ihl ihr =>
    have hboth := between ihl (s := " AND ") (.inr (by decide)) rfl rfl ihr
    simpa [Condition.tokens] using parentheses hboth
  | or l r ihl ihr =>
    have hboth := between ihl (s := " OR ") (.inr (by decide)) rfl rfl ihr
    simpa [Condition.tokens] using parentheses hboth
  | notTrue c ih => exact after (.inr (by decide)) rfl (before ih (.inr (by decide)) rfl)

end Readable

/-! ### Pages -/

/-- Tokens that are read back as they are and quote no names. -/
structure Nameless (ts : List Token) : Prop extends Readable ts where
  identifiers_eq : identifiers ts = []

theorem nameless_nil : Nameless [] := ⟨.nil, rfl⟩

theorem nameless_limit (d : Dialect) (p : Pagination) : Nameless (limitTokens d p) := by
  rw [limitTokens]
  split
  · exact ⟨.after (.inr (by decide)) rfl (.placeholder _), rfl⟩
  · split
    · exact nameless_nil
    · cases d with
      | postgres => exact nameless_nil
      | mysql | sqlite => exact ⟨.single (.inr (by decide)), rfl⟩

theorem nameless_offset (p : Pagination) : Nameless (offsetTokens p) := by
  rw [offsetTokens]
  split
  · exact nameless_nil
  · exact ⟨.after (.inr (by decide)) rfl (.placeholder _), rfl⟩

theorem nameless_page (d : Dialect) (p : Pagination) : Nameless (pageTokens d p) := by
  have hlimit := nameless_limit d p
  have hoffset := nameless_offset p
  simp only [pageTokens]
  split
  · rename_i h
    rcases (Bool.or_eq_true _ _).mp h with h | h
    · rwa [List.isEmpty_iff.mp h]
    · rwa [List.isEmpty_iff.mp h, List.append_nil]
  · refine ⟨.between hlimit.toReadable (.inr (by decide)) rfl rfl hoffset.toReadable, ?_⟩
    rw [identifiers_append, identifiers_text, hlimit.identifiers_eq, hoffset.identifiers_eq]
    rfl

/-! ### Rendered text -/

/-- The rules for quotes take a rendered condition apart into the names of the columns it writes and one
placeholder for each of its parameters, and into the same pieces with the same parameters in every dialect.
The clause of a page quotes no names and goes on numbering, so that the placeholders of both together number
the parameters of both. -/
theorem render_pieces {t : S.Entity} {d : Dialect} {tree : Tree S t} {q : Fragment}
    (h : render d tree = .ok q) :
    ∃ ps, namesIn ps = tree.body.printed.flatMap (fun r => r.1.labels ++ [r.2.name]) ∧
      numbersIn ps = List.range' 1 q.params.length ∧
      ∀ d', ∃ q', render d' tree = .ok q' ∧ q'.params = q.params ∧ split d' 0 q'.sql.toList = some ps ∧
        ∀ p, ∃ qs, split d' q'.params.length (renderPage d' p q'.params.length).sql.toList = some qs ∧
          namesIn qs = [] ∧
          numbersIn qs =
            List.range' (q'.params.length + 1) (renderPage d' p q'.params.length).params.length ∧
          split d' 0 (q'.sql ++ " " ++ (renderPage d' p q'.params.length).sql).toList =
            some (ps ++ .plain ' ' :: qs) ∧
          numbersIn (ps ++ .plain ' ' :: qs) =
            List.range' 1 (q'.params ++ (renderPage d' p q'.params.length).params).length := by
  obtain ⟨c, hc, rfl⟩ := map_eq_ok_iff.mp (show _ <$> conditionOf tree = _ from h)
  have hcolumns := (rendered_of_renderCondition (mapError_eq_ok_iff.mp hc)).columns.eq_map
  have hreadable := Readable.condition c
  refine ⟨pieces 0 c.tokens, ?_, numbersIn_pieces 0 c.tokens, fun d' => ?_⟩
  · rw [namesIn_pieces, identifiers_condition, hcolumns, List.flatMap_map]
    rfl
  refine ⟨.ofTokens d' 0 c.tokens, map_eq_ok_iff.mpr ⟨c, hc, rfl⟩, rfl,
    split_writeTokens d' 0 hreadable, fun p => ?_⟩
  have hpage := nameless_page d' p
  -- The condition, a blank and the page are one list of tokens.
  have hwritten : writeTokens d' 0 (c.tokens ++ .text " " :: pageTokens d' p) =
      writeTokens d' 0 c.tokens ++ " " ++
        writeTokens d' (boundValues c.tokens).length (pageTokens d' p) := by
    rw [writeTokens_append, Nat.zero_add, writeTokens, String.append_assoc]
  have hpieces : pieces 0 (c.tokens ++ .text " " :: pageTokens d' p) =
      pieces 0 c.tokens ++ .plain ' ' :: pieces (boundValues c.tokens).length (pageTokens d' p) := by
    rw [pieces_append, Nat.zero_add, pieces]
    rfl
  refine ⟨pieces (boundValues c.tokens).length (pageTokens d' p),
    split_writeTokens d' _ hpage.toReadable, ?_, numbersIn_pieces _ _, ?_, ?_⟩
  · rw [namesIn_pieces, hpage.identifiers_eq]
  · have hread := split_writeTokens d' 0
      (hreadable.between (s := " ") (.inr (by decide)) rfl rfl hpage.toReadable)
    rw [hwritten, hpieces] at hread
    exact hread
  · rw [← hpieces, numbersIn_pieces, boundValues_append, boundValues_text]
    rfl

/-- The names are read as they are, and the two parameters have a placeholder each. -/
theorem render_pieces_quoting : ∃ ps, namesIn ps = ["nick\"\x60' = $1 OR ?", "agency\"; \x60", "Listed"] ∧
    numbersIn ps = [1, 2] ∧
    ∀ d, ∃ q, render d People.quoting = .ok q ∧ q.params = [.string "%$2%", .bool true] ∧
      split d 0 q.sql.toList = some ps := by
  obtain ⟨q, hq, hparams⟩ : ∃ q, render .mysql People.quoting = .ok q ∧
    q.params = [.string "%$2%", .bool true] := ⟨_, rfl, rfl⟩
  obtain ⟨ps, hnames, hnumbers, hall⟩ := render_pieces hq
  refine ⟨ps, hnames, by rw [hnumbers, hparams]; rfl, fun d => ?_⟩
  obtain ⟨q', hq', heq, hsplit, -⟩ := hall d
  exact ⟨q', hq', heq.trans hparams, hsplit⟩

end Sql

end EntityQuery

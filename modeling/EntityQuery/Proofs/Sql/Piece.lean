import EntityQuery.Proofs.Sql.Lexeme
import Mathlib.Data.List.Chain

/-!
# The pieces of SQL text

The rules for quotes alone take a text apart, whatever statement it is (`split`): names stand between quotes,
texts between apostrophes, placeholders are spelled as the dialect says, and all other characters stand for
themselves. A text that breaks these rules is not taken apart: a quote of another dialect, a quote that is not
closed, a placeholder that runs into a word, or a comment.

Tokens are read back one by one as long as no two of them run together (`Readable`, `split_writeTokens`).
-/

namespace EntityQuery.Sql

/-! ### Pieces -/

/-- A piece of a text. -/
inductive Piece where
  /-- A name between quotes. -/
  | name (s : String)
  /-- A text between apostrophes. -/
  | text (s : String)
  /-- The placeholder of the parameter with this number, counted from one. -/
  | placeholder (n : Nat)
  /-- A character outside of all of these. -/
  | plain (c : Char)
  deriving DecidableEq

/-- How many placeholders a piece is. -/
def Piece.placeholders : Piece → Nat
  | placeholder _ => 1
  | _ => 0

/-- The names between quotes, in their order. -/
def namesIn (ps : List Piece) : List String :=
  ps.filterMap fun
    | .name s => some s
    | _ => none

/-- The numbers of the placeholders, in their order. -/
def numbersIn (ps : List Piece) : List Nat :=
  ps.filterMap fun
    | .placeholder n => some n
    | _ => none

/-- Whether a character keeps apart what stands before and after it. -/
def isSeparator (c : Char) : Bool := [' ', '(', ')', ',', '.'].contains c

/-- Whether a character can stand for itself. -/
def isPlain (c : Char) : Bool := isWordChar c || isSeparator c || ['=', '<', '>', '-'].contains c

/-- Whether a plain character can stand before another character: quotes and placeholders come after a
separator, and two hyphens would start a comment. -/
def joins (c c' : Char) : Bool := isSeparator c || (isPlain c' && !(c == '-' && c' == '-'))

/-- The character that a placeholder starts with. -/
def Dialect.placeholderMark : Dialect → Char
  | postgres => '$'
  | mysql | sqlite => '?'

/-- The number of the placeholder whose mark is followed by a word, after `seen` others: the one that it shows,
or the next one. -/
def Dialect.placeholderNumber (d : Dialect) (seen : Nat) (word : List Char) : Option Nat :=
  match d with
  | postgres => if word ≠ [] ∧ word.all Char.isDigit then some (Text.digitsValue word) else none
  | mysql | sqlite => if word = [] then some (seen + 1) else none

/-- Reads the piece that starts with a character, after `seen` placeholders, and gives back the rest. -/
def piece (d : Dialect) (seen : Nat) (c : Char) (rest : List Char) : Option (Piece × List Char) :=
  if c = '\'' then (readQuoted c rest).map fun q => (.text (.ofList q.1), q.2)
  else if c = d.quoteMark then (readQuoted c rest).map fun q => (.name (.ofList q.1), q.2)
  else if c = d.placeholderMark then
    (d.placeholderNumber seen (rest.takeWhile isWordChar)).map fun n =>
      (.placeholder n, rest.dropWhile isWordChar)
  else if isPlain c && rest.head?.all (joins c) then some (.plain c, rest)
  else none

theorem length_of_piece {d : Dialect} {seen : Nat} {c : Char} {rest : List Char} {q : Piece × List Char}
    (h : piece d seen c rest = some q) : q.2.length ≤ rest.length := by
  unfold piece at h
  split at h
  · obtain ⟨r, hr, rfl⟩ := Option.map_eq_some_iff.mp h
    exact length_of_readQuoted hr
  split at h
  · obtain ⟨r, hr, rfl⟩ := Option.map_eq_some_iff.mp h
    exact length_of_readQuoted hr
  split at h
  · obtain ⟨n, -, rfl⟩ := Option.map_eq_some_iff.mp h
    exact (List.dropWhile_sublist isWordChar).length_le
  split at h
  · cases h
    exact Nat.le_refl _
  · cases h

/-- The pieces of a text, of which `seen` placeholders came before. -/
def split (d : Dialect) (seen : Nat) : List Char → Option (List Piece)
  | [] => some []
  | c :: rest =>
    match _h : piece d seen c rest with
    | some (p, tail) => (split d (seen + p.placeholders) tail).map (p :: ·)
    | none => none
termination_by s => s.length
decreasing_by
  have := length_of_piece _h
  simp only [List.length_cons] at this ⊢
  omega

@[simp] theorem split_nil (d : Dialect) (k : Nat) : split d k [] = some [] := by rw [split]

theorem split_of_piece {d : Dialect} {k : Nat} {c : Char} {rest tail : List Char} {p : Piece}
    (h : piece d k c rest = some (p, tail)) :
    split d k (c :: rest) = (split d (k + p.placeholders) tail).map (p :: ·) := by
  rw [split]
  split
  · rename_i p' tail' h'
    rw [h] at h'
    cases h'
    rfl
  · rename_i h'
    rw [h] at h'
    cases h'

/-! ### Single pieces -/

theorem isSeparator_iff {c : Char} : isSeparator c = true ↔ c ∈ [' ', '(', ')', ',', '.'] :=
  List.contains_iff_mem

theorem joins_of_isSeparator {c c' : Char} (h : isSeparator c = true ∨ isSeparator c' = true) :
    joins c c' = true := by
  rcases h with h | h
  · rw [joins, h, Bool.true_or]
  · have hhyphen : (c' == '-') = false := by
      rw [beq_eq_false_iff_ne]
      rintro rfl
      cases h
    simp [joins, isPlain, h, hhyphen]

/-- A quoted name is read as it was before it was quoted, whatever it is made of. -/
theorem split_name (d : Dialect) (k : Nat) (name : String) {rest : List Char} (h : Breaks rest) :
    split d k ((d.quoteIdentifier name).toList ++ rest) = (split d k rest).map (.name name :: ·) := by
  have hrest : ∀ c ∈ rest.head?, c ≠ d.quoteMark := by
    intro c hc hmark
    have hbreak := h c hc
    rw [hmark] at hbreak
    cases d <;> exact absurd hbreak (by decide)
  have hmark : d.quoteMark ≠ '\'' := by cases d <;> decide
  have hquote : (d.quoteIdentifier name).toList ++ rest = d.quoteMark ::
      (name.toList.flatMap (fun c => if c = d.quoteMark then [c, c] else [c]) ++ d.quoteMark :: rest) := by
    simp [Dialect.quoteIdentifier, Dialect.quoteChars]
  have hpiece : piece d k d.quoteMark
      (name.toList.flatMap (fun c => if c = d.quoteMark then [c, c] else [c]) ++ d.quoteMark :: rest) =
        some (.name name, rest) := by
    rw [piece, if_neg hmark, if_pos rfl, readQuoted_doubled hrest, Option.map_some, String.ofList_toList]
  rw [hquote, split_of_piece hpiece]
  rfl

/-- What follows the mark of a placeholder, as it is spelled. -/
def Dialect.placeholderDigits (d : Dialect) (n : Nat) : List Char :=
  match d with
  | postgres => Nat.toDigits 10 n
  | mysql | sqlite => []

theorem toList_placeholder (d : Dialect) (n : Nat) :
    (d.placeholder n).toList = d.placeholderMark :: d.placeholderDigits n := by
  cases d with
  | mysql | sqlite => simp [Dialect.placeholder, Dialect.placeholderMark, Dialect.placeholderDigits]
  | postgres =>
    simp [Dialect.placeholder, Dialect.placeholderMark, Dialect.placeholderDigits]
    rfl

theorem isDigit_placeholderDigits (d : Dialect) (n : Nat) :
    ∀ c ∈ d.placeholderDigits n, c.isDigit = true := by
  cases d with
  | mysql | sqlite => exact fun _ hc => absurd hc List.not_mem_nil
  | postgres => exact fun _ => Text.isDigit_of_mem_toDigits

theorem placeholderNumber_digits (d : Dialect) (k : Nat) :
    d.placeholderNumber k (d.placeholderDigits (k + 1)) = some (k + 1) := by
  cases d with
  | mysql | sqlite => rfl
  | postgres =>
    have hdigits := List.all_eq_true.mpr (isDigit_placeholderDigits .postgres (k + 1))
    exact (if_pos ⟨Nat.toDigits_ne_nil, hdigits⟩).trans (congrArg some (Text.digitsValue_toDigits (k + 1)))

theorem split_placeholder (d : Dialect) (k : Nat) {rest : List Char} (h : Breaks rest) :
    split d k ((d.placeholder (k + 1)).toList ++ rest) =
      (split d (k + 1) rest).map (.placeholder (k + 1) :: ·) := by
  have hword : ∀ c ∈ d.placeholderDigits (k + 1), isWordChar c = true := by
    intro c hc
    simp [isWordChar, Char.isAlphanum, isDigit_placeholderDigits d (k + 1) c hc]
  obtain ⟨htake, hdrop⟩ := span_of_breaks (f := isWordChar) rfl hword h
  have hmark : d.placeholderMark ≠ '\'' ∧ d.placeholderMark ≠ d.quoteMark := by
    cases d <;> decide
  have hpiece : piece d k d.placeholderMark (d.placeholderDigits (k + 1) ++ rest) =
      some (.placeholder (k + 1), rest) := by
    rw [piece, if_neg hmark.1, if_neg hmark.2, if_pos rfl, htake, hdrop, placeholderNumber_digits,
      Option.map_some]
  rw [toList_placeholder, List.cons_append, split_of_piece hpiece]
  rfl

/-- A plain character, in front of one that it may stand before. -/
theorem split_cons {c : Char} {rest : List Char} (d : Dialect) (k : Nat) (hc : isPlain c = true)
    (h : ∀ c' ∈ rest.head?, joins c c' = true) :
    split d k (c :: rest) = (split d k rest).map (.plain c :: ·) := by
  have happ : c ≠ '\'' := by
    rintro rfl
    cases hc
  have hquote : c ≠ d.quoteMark := by
    rintro rfl
    cases d <;> cases hc
  have hmark : c ≠ d.placeholderMark := by
    rintro rfl
    cases d <;> cases hc
  have hpiece : piece d k c rest = some (.plain c, rest) := by
    rw [piece, if_neg happ, if_neg hquote, if_neg hmark, hc, (Option.all_eq_true _ _).mpr h]
    rfl
  exact split_of_piece hpiece

/-- A run of plain characters that is kept apart from what follows. -/
theorem split_plain {s rest : List Char} (d : Dialect) (k : Nat) (hs : ∀ c ∈ s, isPlain c = true)
    (hj : s.IsChain fun c c' => joins c c' = true)
    (h : (∃ c ∈ s.getLast?, isSeparator c = true) ∨ Breaks rest) :
    split d k (s ++ rest) = (split d k rest).map (s.map .plain ++ ·) := by
  induction s with
  | nil => simp
  | cons c s ih =>
    obtain ⟨hc, hs⟩ := List.forall_mem_cons.mp hs
    obtain ⟨hnext, hj⟩ := List.isChain_cons.mp hj
    rw [List.cons_append]
    cases s with
    | nil =>
      have hjoin : ∀ c' ∈ rest.head?, joins c c' = true := by
        rcases h with ⟨c', hc', hsep⟩ | h
        · cases hc'
          exact fun c' _ => joins_of_isSeparator (.inl hsep)
        · exact fun c' hc' => joins_of_isSeparator (.inr (isSeparator_iff.mpr (h c' hc')))
      exact split_cons d k hc hjoin
    | cons c' s =>
      have hjoin : ∀ c'' ∈ (c' :: s ++ rest).head?, joins c c'' = true := hnext
      rw [split_cons d k hc hjoin, ih hs hj h, Option.map_map]
      rfl

/-! ### Tokens -/

/-- The end of a comparison with a pattern. -/
def escapeClause : String := " ESCAPE '" ++ likeEscape.toString ++ "'"

/-- The pieces of a fixed text. -/
def textPieces (s : String) : List Piece :=
  if s = escapeClause then " ESCAPE ".toList.map .plain ++ [.text likeEscape.toString]
  else s.toList.map .plain

/-- The pieces of tokens after `k` placeholders. -/
def pieces (k : Nat) : List Token → List Piece
  | [] => []
  | .text s :: rest => textPieces s ++ pieces k rest
  | .identifier name :: rest => .name name :: pieces k rest
  | .placeholder _ :: rest => .placeholder (k + 1) :: pieces (k + 1) rest

namespace Token

/-- A fixed text can be taken apart. -/
def Legible : Token → Prop
  | text s =>
    s = escapeClause ∨ s.toList.all isPlain = true ∧ s.toList.IsChain fun c c' => joins c c' = true
  | identifier _ | placeholder _ => True

/-- Whether nothing runs into what comes next. -/
def closes : Token → Bool
  | text s => s.toList.getLast?.any isSeparator
  | identifier _ | placeholder _ => false

/-- Whether nothing that comes before runs into it. -/
def opens : Token → Bool
  | text s => s.toList.head?.any isSeparator
  | identifier _ | placeholder _ => false

end Token

/-- No token runs into the next one, and all fixed texts can be taken apart. -/
structure Readable (ts : List Token) : Prop where
  spaced : ts.IsChain fun t u => t.closes = true ∨ u.opens = true
  legible : ∀ t ∈ ts, t.Legible

theorem breaks_of_opens {d : Dialect} {k : Nat} {t : Token} {ts : List Token} (h : t.opens = true) :
    Breaks (writeTokens d k (t :: ts)).toList := by
  cases t with
  | identifier | placeholder => cases h
  | text s =>
    rw [Token.opens] at h
    rw [writeTokens, String.toList_append]
    cases hs : s.toList with
    | nil =>
      rw [hs] at h
      cases h
    | cons c tail =>
      rw [hs] at h
      exact breaks_cons (isSeparator_iff.mp h)

theorem split_escapeClause (d : Dialect) (k : Nat) {rest : List Char} (h : Breaks rest) :
    split d k (escapeClause.toList ++ rest) = (split d k rest).map (textPieces escapeClause ++ ·) := by
  have hrest : ∀ c ∈ rest.head?, c ≠ '\'' := by
    rintro c hc rfl
    exact absurd (h _ hc) (by decide)
  have hread : readQuoted '\'' ('!' :: '\'' :: rest) = some (['!'], rest) := by
    rw [readQuoted_of_ne (by decide), readQuoted_end hrest]
    rfl
  have hpiece : piece d k '\'' ('!' :: '\'' :: rest) = some (.text "!", rest) := by
    rw [piece, if_pos rfl, hread]
    rfl
  have hword : split d k (" ESCAPE ".toList ++ '\'' :: '!' :: '\'' :: rest) =
      (split d k ('\'' :: '!' :: '\'' :: rest)).map (" ESCAPE ".toList.map .plain ++ ·) :=
    split_plain d k (List.all_eq_true.mp rfl) (by decide) (.inl ⟨' ', rfl, rfl⟩)
  rw [split_of_piece hpiece, Option.map_map] at hword
  exact hword

/-- Tokens that do not run into each other are read as their pieces. -/
theorem split_writeTokens {ts : List Token} (d : Dialect) (k : Nat) (h : Readable ts) :
    split d k (writeTokens d k ts).toList = some (pieces k ts) := by
  induction ts generalizing k with
  | nil => simp [writeTokens, pieces]
  | cons t ts ih =>
    obtain ⟨hnext, hrest⟩ := List.isChain_cons.mp h.spaced
    obtain ⟨ht, hlegible⟩ := List.forall_mem_cons.mp h.legible
    have hread := fun k => ih k ⟨hrest, hlegible⟩
    have hbreaks : ∀ k, t.closes = true ∨ Breaks (writeTokens d k ts).toList := by
      intro k
      cases ts with
      | nil => exact .inr breaks_nil
      | cons u ts => exact (hnext u rfl).imp_right breaks_of_opens
    cases t with
    | identifier name =>
      rw [writeTokens, String.toList_append, split_name d k name ((hbreaks k).resolve_left Bool.false_ne_true), hread k]
      rfl
    | placeholder v =>
      rw [writeTokens, String.toList_append, split_placeholder d k ((hbreaks (k + 1)).resolve_left Bool.false_ne_true),
        hread (k + 1)]
      rfl
    | text s =>
      rw [writeTokens, String.toList_append]
      rcases ht with rfl | ⟨hplain, hjoins⟩
      · rw [split_escapeClause d k ((hbreaks k).resolve_left (by decide)), hread k]
        rfl
      · have hclause : s ≠ escapeClause := by
          rintro rfl
          exact absurd hplain (by decide)
        have hend : (∃ c ∈ s.toList.getLast?, isSeparator c = true) ∨ Breaks (writeTokens d k ts).toList :=
          (hbreaks k).imp_left (Option.any_eq_true _ _).mp
        rw [split_plain d k (List.all_eq_true.mp hplain) hjoins hend, hread k, pieces, textPieces,
          if_neg hclause]
        rfl

end EntityQuery.Sql

import EntityQuery.Proofs.Text.Digits
import EntityQuery.Sql.Syntax

/-!
# The words of SQL

The text of a condition, or of an order, is read back word by word: keywords, whichever case they are written in, names
between quotes, texts between apostrophes, placeholders, and signs, with blanks between them where they are
needed (`lex`). A quote within quotes is doubled. Placeholders are numbered as the dialect says: by the
number that they show, or by their order.

A word is read as what was written, if what follows does not run into it (`Breaks`): keywords
(`lex_keyword`), names of whatever characters (`lex_name`) and placeholders (`lex_placeholder`).
-/

namespace EntityQuery.Sql

/-! ### Lexemes -/

/-- The words that mean something by themselves. -/
inductive Keyword where
  | true
  | false
  | not
  | and
  | or
  | is
  | null
  | like
  | escape
  | within
  | lower
  | coalesce
  | asc
  | desc
  | nulls
  | first
  | last
  deriving DecidableEq

namespace Keyword

/-- How a keyword is written. -/
def word : Keyword → String
  | true => "TRUE"
  | false => "FALSE"
  | not => "NOT"
  | and => "AND"
  | or => "OR"
  | is => "IS"
  | null => "NULL"
  | like => "LIKE"
  | escape => "ESCAPE"
  | within => "IN"
  | lower => "LOWER"
  | coalesce => "COALESCE"
  | asc => "ASC"
  | desc => "DESC"
  | nulls => "NULLS"
  | first => "FIRST"
  | last => "LAST"

/-- All keywords. -/
def all : List Keyword :=
  [true, false, not, and, or, is, null, like, escape, within, lower, coalesce, asc, desc, nulls, first, last]

/-- The keyword that a word is, in upper or lower case. -/
def ofWord? (w : List Char) : Option Keyword :=
  all.find? fun k => k.word.toList == w.map Char.toUpper

theorem ofWord?_word (k : Keyword) : ofWord? k.word.toList = some k := by cases k <;> rfl

end Keyword

/-- A word of SQL. -/
inductive Lexeme where
  | keyword (k : Keyword)
  /-- A name between quotes. -/
  | name (s : String)
  /-- A text between apostrophes. -/
  | text (s : String)
  /-- The placeholder of the parameter with this number, counted from one. -/
  | parameter (n : Nat)
  | opening
  | closing
  | comma
  | dot
  | comparison (op : Comparison)
  deriving DecidableEq

/-! ### Reading lexemes -/

/-- The characters up to a mark that is not doubled, and what follows it. -/
def readQuoted (mark : Char) : List Char → Option (List Char × List Char)
  | [] => none
  | [c] => if c = mark then some ([], []) else none
  | c :: c' :: rest =>
    if c = mark then
      if c' = mark then (readQuoted mark rest).map fun q => (mark :: q.1, q.2)
      else some ([], c' :: rest)
    else (readQuoted mark (c' :: rest)).map fun q => (c :: q.1, q.2)

/-- Whether a character can stand in a word without quotes. -/
def isWordChar (c : Char) : Bool := c.isAlphanum || c == '_'

/-- Reads the lexeme that starts with a character, after `seen` placeholders, and gives back the rest. -/
def scan (d : Dialect) (seen : Nat) (c : Char) (rest : List Char) : Option (Lexeme × List Char) :=
  match c with
  | '(' => some (.opening, rest)
  | ')' => some (.closing, rest)
  | ',' => some (.comma, rest)
  | '.' => some (.dot, rest)
  | '=' => some (.comparison .eq, rest)
  | '<' =>
    match rest with
    | '=' :: tail => some (.comparison .lte, tail)
    | _ => some (.comparison .lt, rest)
  | '>' =>
    match rest with
    | '=' :: tail => some (.comparison .gte, tail)
    | _ => some (.comparison .gt, rest)
  | '?' => if d = .postgres then none else some (.parameter (seen + 1), rest)
  | '$' =>
    if d = .postgres ∧ rest.takeWhile Char.isDigit ≠ [] then
      some (.parameter (Text.digitsValue (rest.takeWhile Char.isDigit)), rest.dropWhile Char.isDigit)
    else none
  | '\'' => (readQuoted '\'' rest).map fun q => (.text (.ofList q.1), q.2)
  | c =>
    if c = d.quoteMark then (readQuoted c rest).map fun q => (.name (.ofList q.1), q.2)
    else (Keyword.ofWord? (c :: rest.takeWhile isWordChar)).map fun k =>
      (.keyword k, rest.dropWhile isWordChar)

theorem length_of_readQuoted {mark : Char} {s : List Char} {p : List Char × List Char}
    (h : readQuoted mark s = some p) : p.2.length ≤ s.length := by
  induction s using readQuoted.induct mark generalizing p with
  | case1 => cases h
  | case2 =>
    simp only [readQuoted, if_true, Option.some.injEq] at h
    subst h
    simp
  | case3 c hc => simp [readQuoted, hc] at h
  | case4 rest ih =>
    simp only [readQuoted, if_true, Option.map_eq_some_iff] at h
    obtain ⟨q, hq, rfl⟩ := h
    have := ih hq
    simp only [List.length_cons]
    omega
  | case5 c' rest hc' =>
    simp only [readQuoted, if_true, hc', if_false, Option.some.injEq] at h
    subst h
    simp
  | case6 c c' rest hc ih =>
    simp only [readQuoted, hc, if_false, Option.map_eq_some_iff] at h
    obtain ⟨q, hq, rfl⟩ := h
    have := ih hq
    simp only [List.length_cons] at this ⊢
    omega

theorem length_of_scan {d : Dialect} {seen : Nat} {c : Char} {rest : List Char}
    {p : Lexeme × List Char} (h : scan d seen c rest = some p) : p.2.length ≤ rest.length := by
  have hdrop : ∀ f : Char → Bool, (rest.dropWhile f).length ≤ rest.length := fun f =>
    (List.dropWhile_sublist f).length_le
  unfold scan at h
  split at h
  · cases h
    exact Nat.le_refl _
  · cases h
    exact Nat.le_refl _
  · cases h
    exact Nat.le_refl _
  · cases h
    exact Nat.le_refl _
  · cases h
    exact Nat.le_refl _
  · split at h
    · cases h
      exact Nat.le_succ _
    · cases h
      exact Nat.le_refl _
  · split at h
    · cases h
      exact Nat.le_succ _
    · cases h
      exact Nat.le_refl _
  · split at h
    · cases h
    · cases h
      exact Nat.le_refl _
  · split at h
    · cases h
      exact hdrop _
    · cases h
  · obtain ⟨q, hq, rfl⟩ := Option.map_eq_some_iff.mp h
    exact length_of_readQuoted hq
  · split at h
    · obtain ⟨q, hq, rfl⟩ := Option.map_eq_some_iff.mp h
      exact length_of_readQuoted hq
    · obtain ⟨k, -, rfl⟩ := Option.map_eq_some_iff.mp h
      exact hdrop _

/-- How many placeholders a lexeme is. -/
def Lexeme.placeholders : Lexeme → Nat
  | parameter _ => 1
  | _ => 0

/-- The lexemes of a text, of which `seen` placeholders came before. -/
def lex (d : Dialect) (seen : Nat) : List Char → Option (List Lexeme)
  | [] => some []
  | c :: rest =>
    if c = ' ' then lex d seen rest
    else
      match _h : scan d seen c rest with
      | some (l, tail) => (lex d (seen + l.placeholders) tail).map (l :: ·)
      | none => none
termination_by s => s.length
decreasing_by
  · simp
  · have := length_of_scan _h
    simp only [List.length_cons] at this ⊢
    omega

@[simp] theorem lex_nil (d : Dialect) (k : Nat) : lex d k [] = some [] := by rw [lex]

@[simp] theorem lex_blank (d : Dialect) (k : Nat) (rest : List Char) :
    lex d k (' ' :: rest) = lex d k rest := by
  rw [lex, if_pos rfl]

theorem lex_of_scan {d : Dialect} {k : Nat} {c : Char} {rest tail : List Char} {l : Lexeme}
    (hc : c ≠ ' ') (h : scan d k c rest = some (l, tail)) :
    lex d k (c :: rest) = (lex d (k + l.placeholders) tail).map (l :: ·) := by
  rw [lex, if_neg hc]
  split
  · rename_i l' tail' h'
    rw [h] at h'
    cases h'
    rfl
  · rename_i h'
    rw [h] at h'
    cases h'

/-! ### Single lexemes -/

/-- What follows does not run into a word, a name, a number or a text. -/
def Breaks (rest : List Char) : Prop := ∀ c ∈ rest.head?, c ∈ [' ', '(', ')', ',', '.']

theorem breaks_nil : Breaks [] := by
  intro c hc
  cases hc

theorem breaks_cons {c : Char} {rest : List Char} (h : c ∈ [' ', '(', ')', ',', '.']) : Breaks (c :: rest) := by
  intro c' hc'
  cases hc'
  exact h

/-- A run of characters stops at what follows. -/
theorem span_of_breaks {f : Char → Bool} (hf : [' ', '(', ')', ',', '.'].any f = false)
    {w rest : List Char} (hw : ∀ c ∈ w, f c = true) (h : Breaks rest) :
    (w ++ rest).takeWhile f = w ∧ (w ++ rest).dropWhile f = rest := by
  have hrest : rest.takeWhile f = [] ∧ rest.dropWhile f = rest := by
    cases rest with
    | nil => exact ⟨rfl, rfl⟩
    | cons c tail =>
      have hc : ¬f c = true := List.any_eq_false.mp hf c (h c rfl)
      simp [hc]
  rw [List.takeWhile_append_of_pos hw, List.dropWhile_append_of_pos hw, hrest.1, hrest.2]
  simp

/-- A letter starts a word. -/
theorem scan_of_isUpper {d : Dialect} {k : Nat} {c : Char} (hc : c.isUpper = true) (rest : List Char) :
    scan d k c rest = (Keyword.ofWord? (c :: rest.takeWhile isWordChar)).map fun w =>
      (.keyword w, rest.dropWhile isWordChar) := by
  have hquote : ¬c = d.quoteMark := by
    rintro rfl
    cases d <;> cases hc
  unfold scan
  split
  all_goals first
    | cases hc
    | rw [if_neg hquote]

theorem word_eq_cons (w : Keyword) :
    ∃ c tail, w.word.toList = c :: tail ∧ c.isUpper = true ∧ tail.all isWordChar = true := by
  cases w <;> exact ⟨_, _, rfl, rfl, rfl⟩

theorem lex_keyword (d : Dialect) (k : Nat) (w : Keyword) {rest : List Char} (h : Breaks rest) :
    lex d k (w.word.toList ++ rest) = (lex d k rest).map (.keyword w :: ·) := by
  obtain ⟨c, tail, hw, hc, htail⟩ := word_eq_cons w
  obtain ⟨htake, hdrop⟩ := span_of_breaks (f := isWordChar) rfl (List.all_eq_true.mp htail) h
  have hblank : c ≠ ' ' := by
    rintro rfl
    cases hc
  have hscan : scan d k c (tail ++ rest) = some (.keyword w, rest) := by
    rw [scan_of_isUpper hc, htake, hdrop, ← hw, Keyword.ofWord?_word]
    rfl
  rw [hw, List.cons_append, lex_of_scan hblank hscan]
  rfl

theorem readQuoted_mark {mark : Char} (s : List Char) :
    readQuoted mark (mark :: mark :: s) = (readQuoted mark s).map fun q => (mark :: q.1, q.2) := by
  rw [readQuoted, if_pos rfl, if_pos rfl]

theorem readQuoted_of_ne {mark c : Char} (hc : c ≠ mark) (s : List Char) :
    readQuoted mark (c :: s) = (readQuoted mark s).map fun q => (c :: q.1, q.2) := by
  cases s with
  | nil => simp [readQuoted, hc]
  | cons c' rest => rw [readQuoted, if_neg hc]

theorem readQuoted_end {mark : Char} {rest : List Char} (h : ∀ c ∈ rest.head?, c ≠ mark) :
    readQuoted mark (mark :: rest) = some ([], rest) := by
  cases rest with
  | nil => rw [readQuoted, if_pos rfl]
  | cons c tail => rw [readQuoted, if_pos rfl, if_neg (h c rfl)]

/-- The quotes around a name are taken off, whatever the name is made of. -/
theorem readQuoted_doubled {mark : Char} {rest : List Char} (h : ∀ c ∈ rest.head?, c ≠ mark)
    (s : List Char) :
    readQuoted mark (s.flatMap (fun c => if c = mark then [c, c] else [c]) ++ mark :: rest) =
      some (s, rest) := by
  induction s with
  | nil => exact readQuoted_end h
  | cons c s ih =>
    rw [List.flatMap_cons]
    by_cases hc : c = mark
    · rw [if_pos hc, hc, List.append_assoc, List.cons_append, List.cons_append, List.nil_append,
        readQuoted_mark, ih]
      rfl
    · rw [if_neg hc, List.append_assoc, List.cons_append, List.nil_append, readQuoted_of_ne hc, ih]
      rfl

theorem lex_name (d : Dialect) (k : Nat) (name : String) {rest : List Char} (h : Breaks rest) :
    lex d k ((d.quoteIdentifier name).toList ++ rest) = (lex d k rest).map (.name name :: ·) := by
  have hrest : ∀ c ∈ rest.head?, c ≠ d.quoteMark := by
    intro c hc hmark
    have hbreak := h c hc
    rw [hmark] at hbreak
    cases d <;> exact absurd hbreak (by decide)
  have hscan : ∀ tail, scan d k d.quoteMark tail =
      (readQuoted d.quoteMark tail).map fun q => (.name (.ofList q.1), q.2) := by
    intro tail
    cases d <;> rfl
  have hblank : d.quoteMark ≠ ' ' := by cases d <;> decide
  have hquote : (d.quoteIdentifier name).toList ++ rest = d.quoteMark ::
      (name.toList.flatMap (fun c => if c = d.quoteMark then [c, c] else [c]) ++ d.quoteMark :: rest) := by
    simp [Dialect.quoteIdentifier, Dialect.quoteChars]
  rw [hquote, lex_of_scan hblank (by rw [hscan, readQuoted_doubled hrest]; rfl), String.ofList_toList]
  rfl

theorem lex_placeholder (d : Dialect) (k : Nat) {rest : List Char} (h : Breaks rest) :
    lex d k ((d.placeholder (k + 1)).toList ++ rest) =
      (lex d (k + 1) rest).map (.parameter (k + 1) :: ·) := by
  have hmark : d ≠ .postgres → (d.placeholder (k + 1)).toList = ['?'] →
      lex d k ((d.placeholder (k + 1)).toList ++ rest) =
        (lex d (k + 1) rest).map (.parameter (k + 1) :: ·) := by
    intro hd hp
    rw [hp, List.cons_append, List.nil_append, lex_of_scan (by decide) (by rw [scan, if_neg hd])]
    rfl
  cases d with
  | mysql => exact hmark nofun (by simp [Dialect.placeholder])
  | sqlite => exact hmark nofun (by simp [Dialect.placeholder])
  | postgres =>
    have hdigit : ∀ c ∈ Nat.toDigits 10 (k + 1), c.isDigit = true := fun _ => Text.isDigit_of_mem_toDigits
    obtain ⟨htake, hdrop⟩ := span_of_breaks (f := Char.isDigit) rfl hdigit h
    have hwritten : (Dialect.placeholder .postgres (k + 1)).toList ++ rest =
        '$' :: (Nat.toDigits 10 (k + 1) ++ rest) := by
      have : (Dialect.placeholder .postgres (k + 1)).toList = '$' :: Nat.toDigits 10 (k + 1) := by
        simp [Dialect.placeholder]
        rfl
      rw [this, List.cons_append]
    have hscan : scan .postgres k '$' (Nat.toDigits 10 (k + 1) ++ rest) =
        some (.parameter (k + 1), rest) := by
      rw [scan, htake, hdrop, if_pos ⟨rfl, Nat.toDigits_ne_nil⟩, Text.digitsValue_toDigits]
    rw [hwritten, lex_of_scan (by decide) hscan]
    rfl

end EntityQuery.Sql

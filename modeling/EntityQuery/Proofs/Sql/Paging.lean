import EntityQuery.Proofs.Request.Execution
import EntityQuery.Proofs.Sql.Numbering

/-!
# What the clause of a page returns

The clause of a page is read word by word: at most a limit and an offset, in this order, each a keyword and a
number of rows, which is written out or bound to a placeholder (`PageClause.read`). Only one dialect knows an
offset without a limit. A limit keeps at most so many of the rows after the offset; a negative one is no limit
in one dialect and a fault in the others (`PageClause.run`).

Whatever page is rendered, in whatever dialect, its clause is read so, and returns of the rows of a table what the
source in memory would cut out (`renderPage_slices`). Some numbers are written only because a dialect needs them,
and numbers that are too large are bound as the largest one; neither makes a difference to a list of rows that
can be counted.
-/

namespace EntityQuery.Sql

/-! ### Clauses -/

/-- A number of rows. -/
inductive RowCount where
  /-- The number is written out. -/
  | number (z : Int)
  /-- The value bound to the placeholder with this number, counted from one. -/
  | parameter (n : Nat)

/-- Which rows to return: at most so many, after so many others. -/
structure PageClause where
  limit : Option RowCount := none
  offset : Option RowCount := none

/-! ### Reading -/

/-- The pieces of a keyword. -/
def keywordPieces (word : String) : List Piece := word.toList.map .plain

/-- The number that a word denotes, if it consists of digits. -/
def readDigits (word : List Piece) : Option Nat := do
  let cs ← word.mapM fun
    | .plain c => some c
    | _ => none
  if cs ≠ [] ∧ cs.all Char.isDigit then some (Text.digitsValue cs) else none

/-- The number of rows that a word says. -/
def readCount : List Piece → Option RowCount
  | [.placeholder n] => some (.parameter n)
  | .plain '-' :: word => (readDigits word).map fun n => .number (-n)
  | word => (readDigits word).map fun n => .number n

namespace PageClause

/-- The clause that words make. An offset comes after the limit, and without one it is known to PostgreSQL alone. -/
def ofWords (d : Dialect) : List (List Piece) → Option PageClause
  | [[]] => some {}
  | [word, count] =>
    if word = keywordPieces "LIMIT" then do
      some { limit := ← readCount count }
    else if word = keywordPieces "OFFSET" ∧ d = .postgres then do
      some { offset := ← readCount count }
    else none
  | [word, count, word', count'] =>
    if word = keywordPieces "LIMIT" ∧ word' = keywordPieces "OFFSET" then do
      some { limit := ← readCount count, offset := ← readCount count' }
    else none
  | _ => none

/-- Reads a clause, after `seen` placeholders. -/
def read (d : Dialect) (seen : Nat) (text : String) : Option PageClause := do
  ofWords d ((← split d seen text.toList).splitOn (.plain ' '))

end PageClause

/-! ### Running -/

variable {ρ : Type}

/-- The number that a count stands for, under the values bound to all placeholders of a statement. -/
def RowCount.eval (params : List Value) : RowCount → Option Int
  | number z => some z
  | parameter 0 => none
  | parameter (n + 1) =>
    match params[n]? with
    | some (.int i) => some i.toInt
    | _ => none

/-- The rows after so many others. -/
def offsetRows (z : Int) (rows : List ρ) : Option (List ρ) :=
  if 0 ≤ z then some (rows.drop z.toNat) else none

/-- At most so many rows. SQLite takes a negative number for no limit. -/
def Dialect.limitRows (d : Dialect) (z : Int) (rows : List ρ) : Option (List ρ) :=
  if 0 ≤ z then some (rows.take z.toNat) else if d = .sqlite then some rows else none

namespace PageClause

/-- The rows after those that a clause skips. -/
def afterOffset (params : List Value) (clause : PageClause) (rows : List ρ) : Option (List ρ) :=
  match clause.offset with
  | none => some rows
  | some count => do offsetRows (← count.eval params) rows

/-- As many rows as a clause allows. -/
def withinLimit (d : Dialect) (params : List Value) (clause : PageClause) (rows : List ρ) : Option (List ρ) :=
  match clause.limit with
  | none => some rows
  | some count => do d.limitRows (← count.eval params) rows

/-- The rows that a clause returns, under the values bound to all placeholders of a statement. -/
def run (d : Dialect) (params : List Value) (clause : PageClause) (rows : List ρ) : Option (List ρ) := do
  clause.withinLimit d params (← clause.afterOffset params rows)

end PageClause

/-! ### Pages -/

/-- The limit that a dialect needs where none is meant. -/
def Dialect.noLimit : Dialect → Option RowCount
  | postgres => none
  | mysql => some (.number 18446744073709551615)
  | sqlite => some (.number (-1))

/-- The clause that is meant by a page, after `bound` parameters. -/
def clauseOf (d : Dialect) (bound : Nat) (p : Pagination) : PageClause where
  limit :=
    match p.take with
    | some _ => some (.parameter (bound + 1))
    | none => if p.skip = 0 then none else d.noLimit
  offset := if p.skip = 0 then none else some (.parameter (bound + p.take.toList.length + 1))

/-- The sizes that a page binds, in the order of their placeholders. -/
def pageSizes (p : Pagination) : List Nat := p.take.toList ++ if p.skip = 0 then [] else [p.skip]

/-- The words of a page make the clause that is meant. -/
theorem ofWords_pieces (d : Dialect) (bound : Nat) (p : Pagination) :
    PageClause.ofWords d ((pieces bound (pageTokens d p)).splitOn (.plain ' ')) = some (clauseOf d bound p) := by
  obtain ⟨skip, take⟩ := p
  cases skip <;> cases take <;> cases d <;> rfl

/-- What is rendered for a page is read as the clause that is meant. -/
theorem read_renderPage (d : Dialect) (bound : Nat) (p : Pagination) :
    PageClause.read d bound (renderPage d p bound).sql = some (clauseOf d bound p) := by
  have hsplit := split_writeTokens d bound (nameless_page d p).toReadable
  rw [PageClause.read, renderPage, Fragment.ofTokens, hsplit]
  exact ofWords_pieces d bound p

theorem params_renderPage (d : Dialect) (bound : Nat) (p : Pagination) :
    (renderPage d p bound).params = (pageSizes p).map boundSize := by
  obtain ⟨skip, take⟩ := p
  cases skip <;> cases take <;> cases d <;> rfl

/-! ### Rows of a page -/

variable {rows : List ρ} {d : Dialect} {params : List Value}

/-- A size that is too large is bound as the largest one. -/
theorem toInt_boundSize (n : Nat) : (Int64.ofNat (min n maxBound)).toInt = (min n maxBound : Nat) := by
  refine Int64.toInt_ofNat_of_lt ?_
  have hmax : maxBound < 2 ^ 63 := by decide
  omega

theorem eval_boundSize {k n : Nat} (h : params[k]? = some (boundSize n)) :
    (RowCount.parameter (k + 1)).eval params = some (min n maxBound : Nat) := by
  rw [RowCount.eval, h]
  exact congrArg some (toInt_boundSize n)

theorem offsetRows_min (h : rows.length ≤ maxBound) (n : Nat) :
    offsetRows (min n maxBound : Nat) rows = some (rows.drop n) := by
  rw [offsetRows, if_pos (Int.natCast_nonneg _), Int.toNat_natCast]
  exact congrArg some (List.drop_eq_drop_iff.mpr (by omega))

theorem limitRows_min (d : Dialect) (h : rows.length ≤ maxBound) (n : Nat) :
    d.limitRows (min n maxBound : Nat) rows = some (rows.take n) := by
  rw [Dialect.limitRows, if_pos (Int.natCast_nonneg _), Int.toNat_natCast]
  exact congrArg some (List.take_eq_take_iff.mpr (by omega))

/-- The limit that is written where none is meant keeps all rows. -/
theorem limitRows_noLimit (h : rows.length ≤ maxBound) {count : RowCount} (hcount : d.noLimit = some count) :
    (do d.limitRows (← count.eval params) rows) = some rows := by
  cases d with
  | postgres => cases hcount
  | mysql =>
    obtain rfl := Option.some.inj hcount
    refine congrArg some (List.take_of_length_le (h.trans ?_))
    decide
  | sqlite =>
    obtain rfl := Option.some.inj hcount
    rfl

theorem afterOffset_clauseOf (before : List Value) (p : Pagination) (h : rows.length ≤ maxBound) :
    (clauseOf d before.length p).afterOffset (before ++ (pageSizes p).map boundSize) rows =
      some (rows.drop p.skip) := by
  obtain ⟨skip, take⟩ := p
  cases skip with
  | zero => rfl
  | succ n =>
    have hbound : (before ++ (pageSizes ⟨n + 1, take⟩).map boundSize)[before.length + take.toList.length]? =
        some (boundSize (n + 1)) := by
      simp [pageSizes]
    show (do offsetRows (← (RowCount.parameter (before.length + take.toList.length + 1)).eval _) rows) = _
    rw [eval_boundSize hbound]
    exact offsetRows_min h (n + 1)

theorem withinLimit_clauseOf (before : List Value) (p : Pagination) (h : rows.length ≤ maxBound) :
    (clauseOf d before.length p).withinLimit d (before ++ (pageSizes p).map boundSize) rows =
      some (RowSource.cut 0 p.take rows) := by
  obtain ⟨skip, take⟩ := p
  cases take with
  | some n =>
    have hbound : (before ++ (pageSizes ⟨skip, some n⟩).map boundSize)[before.length]? = some (boundSize n) := by
      simp [pageSizes]
    show (do d.limitRows (← (RowCount.parameter (before.length + 1)).eval _) rows) = _
    rw [eval_boundSize hbound]
    exact limitRows_min d h n
  | none =>
    show PageClause.withinLimit d _ { limit := if skip = 0 then none else d.noLimit } rows = some rows
    split
    · rfl
    · cases hcount : d.noLimit with
      | none => rfl
      | some count => exact limitRows_noLimit h hcount

/-- The clause that is meant by a page returns what the page cuts out. -/
theorem run_clauseOf (d : Dialect) (before : List Value) (p : Pagination) (h : rows.length ≤ maxBound) :
    (clauseOf d before.length p).run d (before ++ (pageSizes p).map boundSize) rows =
      some (RowSource.cut p.skip p.take rows) := by
  have hrest : (rows.drop p.skip).length ≤ maxBound := by
    rw [List.length_drop]
    omega
  rw [PageClause.run, afterOffset_clauseOf before p h]
  exact withinLimit_clauseOf before p hrest

/-- The clause that is rendered for a page, in a statement that has bound other values before, is read and
returns the rows that the source in memory cuts out. Its placeholders are numbered on from the other values, and
the sizes are bound in their order, those above the largest integer as that. -/
theorem renderPage_slices (d : Dialect) (p : Pagination) (before : List Value) (m : RowSource ρ)
    (h : m.toList.length < 2 ^ 63) :
    (∃ clause, PageClause.read d before.length (renderPage d p before.length).sql = some clause ∧
      clause.run d (before ++ (renderPage d p before.length).params) m.toList =
        some (m.slice p.skip p.take).toList) ∧
    (∃ ps, split d before.length (renderPage d p before.length).sql.toList = some ps ∧
      numbersIn ps = List.range' (before.length + 1) (renderPage d p before.length).params.length) ∧
    (renderPage d p before.length).params =
      (p.take.toList ++ if p.skip = 0 then [] else [p.skip]).map fun n =>
        .int (Int64.ofNat (min n (2 ^ 63 - 1))) := by
  have hlength : m.toList.length ≤ maxBound := Nat.le_sub_one_of_lt h
  refine ⟨⟨_, read_renderPage d before.length p, ?_⟩,
    ⟨_, split_writeTokens d before.length (nameless_page d p).toReadable, numbersIn_pieces _ _⟩,
    params_renderPage d before.length p⟩
  rw [params_renderPage, run_clauseOf d before p hlength, RowSource.toList_slice]

/-- After one bound value, an offset of one alone needs a limit that keeps all rows, and a limit that cannot be
bound as it is keeps them all, too. -/
theorem renderPage_slices_three :
    (∃ clause, PageClause.read .mysql 1 "LIMIT 18446744073709551615 OFFSET ?" = some clause ∧
      clause.run .mysql [.bool true, .int 1] ["a", "b", "c"] = some ["b", "c"]) ∧
    ∃ clause, PageClause.read .postgres 1 "LIMIT $2 OFFSET $3" = some clause ∧
      clause.run .postgres [.bool true, .int 9223372036854775807, .int 1] ["a", "b", "c"] = some ["b", "c"] := by
  have hmysql := renderPage_slices .mysql ⟨1, none⟩ [.bool true] (RowSource.ofRows ["a", "b", "c"]) (by decide)
  have hpostgres := renderPage_slices .postgres ⟨1, some (2 ^ 64 - 1)⟩ [.bool true]
    (RowSource.ofRows ["a", "b", "c"]) (by decide)
  exact ⟨hmysql.1, hpostgres.1⟩

end EntityQuery.Sql

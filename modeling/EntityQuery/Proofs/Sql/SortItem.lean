import EntityQuery.Proofs.Sql.Grammar
import EntityQuery.Sql.Order

/-!
# The grammar of `ORDER BY`

The content of `ORDER BY` is a list of expressions with commas between them. After each there may be a direction,
which is ascending if none is written, and in some dialects the place of nulls (`sortItem`).

Every term is written as one or two columns (`OrderTerm.columns`): a dialect that cannot say where nulls go has the
column a first time, to be sorted by whether it is null. The text of terms is read as these columns, in their
order (`readOrder_toText`).
-/

namespace EntityQuery.Sql

/-- What rows are sorted by. -/
structure SortItem where
  expression : Expression
  direction : SortDirection
  nulls : Option NullsOrder

/-! ### Readers -/

/-- The direction that is written, or else the ascending one. -/
def sortDirection : List Lexeme → SortDirection × List Lexeme
  | .keyword .asc :: rest => (.asc, rest)
  | .keyword .desc :: rest => (.desc, rest)
  | ls => (.asc, ls)

/-- Where nulls go, if the dialect can say it and it is written. -/
def sortNulls (d : Dialect) (ls : List Lexeme) : Option NullsOrder × List Lexeme :=
  if d.hasNullsOrder then
    match ls with
    | .keyword .nulls :: .keyword .first :: rest => (some .first, rest)
    | .keyword .nulls :: .keyword .last :: rest => (some .last, rest)
    | ls => (none, ls)
  else (none, ls)

/-- An expression with a direction and a place of nulls, where they are written. -/
def sortItem (d : Dialect) : Reader SortItem := fun ls =>
  (expression (ls.length + 1) ls).map fun (e, rest) =>
    let direction := sortDirection rest
    let nulls := sortNulls d direction.2
    (⟨e, direction.1, nulls.1⟩, nulls.2)

/-- What a text sorts by. An empty one sorts by nothing. -/
def readOrder (d : Dialect) (sql : String) : Option (List SortItem) :=
  match lex d 0 sql.toList with
  | some ls =>
    if ls = [] then some []
    else
      match listed (sortItem d) (ls.length + 1) ls with
      | some (items, []) => some items
      | _ => none
  | none => none

/-! ### What is written -/

/-- A column as it is written to be sorted by. -/
structure SortColumn where
  name : String
  /-- Rows are sorted by whether the column is null. -/
  nullTest : Bool
  direction : SortDirection
  nulls : Option NullsOrder

/-- The columns that a term is written as. -/
def OrderTerm.columns (d : Dialect) (t : OrderTerm) : List SortColumn :=
  match t.nulls with
  | none => [⟨t.name, false, t.direction, none⟩]
  | some n =>
    if d.hasNullsOrder then [⟨t.name, false, t.direction, some n⟩]
    else [⟨t.name, true, nullDirection n, none⟩, ⟨t.name, false, t.direction, none⟩]

/-- The keyword of a direction. -/
def directionWord : SortDirection → Keyword
  | .asc => .asc
  | .desc => .desc

/-- The keywords of a place of nulls. -/
def nullsWords : NullsOrder → List Keyword
  | .first => [.nulls, .first]
  | .last => [.nulls, .last]

/-- A text with keywords after it. -/
def withWords (s : String) (ws : List Keyword) : String := ws.foldl (fun s w => s ++ " " ++ w.word) s

namespace SortColumn

/-- What is meant by the column. -/
def item (c : SortColumn) : SortItem :=
  ⟨if c.nullTest then .isNull (.column ⟨[], c.name⟩) else .column ⟨[], c.name⟩, c.direction, c.nulls⟩

/-- The keywords of the test. -/
def testWords (c : SortColumn) : List Keyword := if c.nullTest then [.is, .null] else []

/-- The keywords after the name. -/
def words (c : SortColumn) : List Keyword :=
  c.testWords ++ directionWord c.direction :: c.nulls.elim [] nullsWords

/-- The item as it is written. -/
def toText (d : Dialect) (c : SortColumn) : String := withWords (d.quoteIdentifier c.name) c.words

/-- The lexemes of the item. -/
def lexemes (c : SortColumn) : List Lexeme := .name c.name :: c.words.map .keyword

end SortColumn

theorem withWords_directionWord (s : String) (dir : SortDirection) (ws : List Keyword) :
    withWords s (directionWord dir :: ws) = withWords (s ++ " " ++ dir.toSql) ws := by
  cases dir <;> rfl

theorem withWords_nullsWords (s : String) (n : NullsOrder) :
    withWords s (nullsWords n) = s ++ " " ++ n.toSql := by
  cases n with
  | first | last =>
    simp only [withWords, nullsWords, List.foldl, String.append_assoc]
    rfl

theorem withWords_isNull (s : String) (ws : List Keyword) :
    withWords s (.is :: .null :: ws) = withWords (s ++ " IS NULL") ws := by
  have h : s ++ " IS NULL" = s ++ " " ++ "IS" ++ " " ++ "NULL" := by
    simp only [String.append_assoc]
    rfl
  rw [h]
  rfl

namespace OrderTerm

theorem columns_ne_nil (d : Dialect) (t : OrderTerm) : t.columns d ≠ [] := by
  unfold columns
  split
  · exact List.cons_ne_nil _ _
  · split
    · exact List.cons_ne_nil _ _
    · exact List.cons_ne_nil _ _

/-- A dialect that cannot say where nulls go does not say it. -/
theorem hasNullsOrder_of_mem_columns {d : Dialect} {t : OrderTerm} {c : SortColumn} (h : c ∈ t.columns d) :
    d.hasNullsOrder = true ∨ c.nulls = none := by
  unfold columns at h
  split at h
  · rw [List.mem_singleton.mp h]
    exact .inr rfl
  · split at h
    · rename_i hd
      exact .inl hd
    · simp only [List.mem_cons, List.not_mem_nil, or_false] at h
      rcases h with rfl | rfl
      · exact .inr rfl
      · exact .inr rfl

/-- A term is written as its columns. -/
theorem toText_eq_intercalate (d : Dialect) (t : OrderTerm) :
    t.toText d = ", ".intercalate ((t.columns d).map (SortColumn.toText d)) := by
  have hplain : SortColumn.toText d ⟨t.name, false, t.direction, none⟩ =
      d.quoteIdentifier t.name ++ " " ++ t.direction.toSql :=
    withWords_directionWord _ t.direction []
  unfold toText columns
  cases t.nulls with
  | none =>
    rw [List.map_cons, List.map_nil, String.intercalate_singleton, hplain]
    rfl
  | some n =>
    have hnulls : SortColumn.toText d ⟨t.name, false, t.direction, some n⟩ =
        d.quoteIdentifier t.name ++ " " ++ t.direction.toSql ++ " " ++ n.toSql :=
      (withWords_directionWord _ t.direction (nullsWords n)).trans (withWords_nullsWords _ n)
    have htest : SortColumn.toText d ⟨t.name, true, nullDirection n, none⟩ =
        d.quoteIdentifier t.name ++ " IS NULL" ++ " " ++ (nullDirection n).toSql :=
      (withWords_isNull _ _).trans (withWords_directionWord _ _ [])
    cases d.hasNullsOrder with
    | true =>
      simp only [if_true, List.map_cons, List.map_nil, String.intercalate_singleton, hnulls]
      rfl
    | false =>
      simp [hplain, htest, String.append_assoc]
      rfl

/-- Terms are written as their columns. -/
theorem intercalate_toText (d : Dialect) (ts : List OrderTerm) :
    ", ".intercalate (ts.map (toText d)) =
      ", ".intercalate ((ts.flatMap (columns d)).map (SortColumn.toText d)) := by
  induction ts with
  | nil => rfl
  | cons t rest ih =>
    cases rest with
    | nil => simp [toText_eq_intercalate]
    | cons t' rest =>
      have ht : (t.columns d).map (SortColumn.toText d) ≠ [] := by simp [columns_ne_nil]
      have hrest : ((t' :: rest).flatMap (columns d)).map (SortColumn.toText d) ≠ [] := by
        simp [columns_ne_nil]
      rw [List.flatMap_cons, List.map_append, String.intercalate_append_of_ne_nil ht hrest, ← ih,
        ← toText_eq_intercalate, List.map_cons, List.map_cons, String.intercalate_cons_cons]

end OrderTerm

/-! ### Lexemes -/

/-- A text is read as these lexemes, if what follows does not run into it. -/
def Spells (d : Dialect) (s : String) (ls : List Lexeme) : Prop :=
  ∀ rest, Breaks rest → lex d 0 (s.toList ++ rest) = (lex d 0 rest).map (ls ++ ·)

namespace Spells

variable {d : Dialect} {s s' : String} {ls ls' : List Lexeme}

theorem lex_eq (h : Spells d s ls) : lex d 0 s.toList = some ls := by
  have h' := h [] breaks_nil
  simpa using h'

theorem word (h : Spells d s ls) (w : Keyword) : Spells d (s ++ " " ++ w.word) (ls ++ [.keyword w]) := by
  intro rest hrest
  have hbreak : Breaks (' ' :: (w.word.toList ++ rest)) := breaks_cons (by decide)
  have hs : (s ++ " " ++ w.word).toList ++ rest = s.toList ++ ' ' :: (w.word.toList ++ rest) := by simp
  rw [hs, h _ hbreak, lex_blank, lex_keyword d 0 w hrest]
  exact map_append_map _ ls [.keyword w]

theorem withWords (h : Spells d s ls) (ws : List Keyword) :
    Spells d (withWords s ws) (ls ++ ws.map .keyword) := by
  induction ws generalizing s ls with
  | nil => rwa [List.map_nil, List.append_nil]
  | cons w ws ih =>
    have hws := ih (h.word w)
    rwa [List.append_assoc] at hws

theorem comma (h : Spells d s ls) (h' : Spells d s' ls') :
    Spells d (s ++ ", " ++ s') (ls ++ .comma :: ls') := by
  intro rest hrest
  have hbreak : Breaks (", ".toList ++ (s'.toList ++ rest)) := breaks_cons (by decide)
  have hs : (s ++ ", " ++ s').toList ++ rest = s.toList ++ (", ".toList ++ (s'.toList ++ rest)) := by simp
  rw [hs, h _ hbreak, Reads.comma, h' rest hrest, map_append_map, map_append_map, ← List.append_cons]

theorem column (c : SortColumn) : Spells d (c.toText d) c.lexemes := by
  have hname : Spells d (d.quoteIdentifier c.name) [.name c.name] := fun _ hrest => lex_name d 0 c.name hrest
  exact hname.withWords c.words

theorem columns (cs : List SortColumn) :
    Spells d (", ".intercalate (cs.map (SortColumn.toText d)))
      ([.comma].intercalate (cs.map SortColumn.lexemes)) := by
  induction cs with
  | nil =>
    intro rest _
    simp
  | cons c rest ih =>
    cases rest with
    | nil => simpa using column c
    | cons c' rest =>
      have h := (column c).comma ih
      simpa using h

end Spells

/-! ### Items -/

theorem directionWord_continues (dir : SortDirection) :
    (Lexeme.keyword (directionWord dir)).continues = false := by
  cases dir <;> rfl

theorem sortDirection_cons (dir : SortDirection) (ls : List Lexeme) :
    sortDirection (.keyword (directionWord dir) :: ls) = (dir, ls) := by
  cases dir <;> rfl

/-- After a direction comes where nulls go, or nothing. -/
theorem sortNulls_append {d : Dialect} {n : Option NullsOrder} (hn : d.hasNullsOrder = true ∨ n = none)
    {rest : List Lexeme} (h : Ends rest) :
    sortNulls d ((n.elim [] nullsWords).map .keyword ++ rest) = (n, rest) := by
  cases n with
  | none =>
    show sortNulls d rest = (none, rest)
    unfold sortNulls
    split
    · split
      · exact absurd rfl (h.ne_keyword .nulls _ rfl)
      · exact absurd rfl (h.ne_keyword .nulls _ rfl)
      · rfl
    · rfl
  | some n =>
    have hd : d.hasNullsOrder = true := hn.resolve_right nofun
    unfold sortNulls
    rw [if_pos hd]
    cases n <;> rfl

/-- A column, or whether it is null, in front of a direction. -/
theorem expression_sortColumn (n : Nat) (c : SortColumn) (ls : List Lexeme) :
    expression (n + 1) (.name c.name :: (c.testWords.map .keyword ++
        .keyword (directionWord c.direction) :: ls)) =
      some (c.item.expression, .keyword (directionWord c.direction) :: ls) := by
  have hhead : ∀ w : Keyword, directionWord c.direction ≠ w →
      ∀ l ∈ (Lexeme.keyword (directionWord c.direction) :: ls).head?, l ≠ .keyword w := by
    rintro w hw l hl rfl
    cases hl
    exact hw rfl
  have hcloses : Closes (.keyword (directionWord c.direction) :: ls) :=
    closes_cons (directionWord_continues c.direction) ls
  refine disjunction_of_negation ?_ (hhead .and (by cases c.direction <;> decide))
    (hhead .or (by cases c.direction <;> decide))
  unfold SortColumn.item SortColumn.testWords
  cases c.nullTest with
  | true => exact negation_isNull n ⟨[], c.name⟩ _
  | false => exact negation_of_primary (primary_column ⟨[], c.name⟩ hcloses.undotted) hcloses nofun

theorem sortItem_column {d : Dialect} {c : SortColumn} (hc : d.hasNullsOrder = true ∨ c.nulls = none)
    {rest : List Lexeme} (h : Ends rest) : sortItem d (c.lexemes ++ rest) = some (c.item, rest) := by
  have hlexemes : c.lexemes ++ rest = .name c.name :: (c.testWords.map .keyword ++
      .keyword (directionWord c.direction) :: ((c.nulls.elim [] nullsWords).map .keyword ++ rest)) := by
    simp [SortColumn.lexemes, SortColumn.words]
  rw [sortItem, hlexemes, expression_sortColumn]
  simp only [Option.map_some, sortDirection_cons, sortNulls_append hc h]
  rfl

/-- Parts with commas between them are read as a list. -/
theorem listed_intercalate {α β : Type} {r : Reader α} {f : β → List Lexeme} {g : β → α} {bs : List β}
    (hr : ∀ b ∈ bs, ∀ rest, Ends rest → r (f b ++ rest) = some (g b, rest)) (hbs : bs ≠ []) {n : Nat}
    (hn : bs.length ≤ n) : listed r n ([.comma].intercalate (bs.map f)) = some (bs.map g, []) := by
  induction bs generalizing n with
  | nil => exact absurd rfl hbs
  | cons b rest ih =>
    obtain ⟨n, rfl⟩ := Nat.exists_eq_add_one_of_ne_zero (Nat.ne_zero_of_lt hn)
    cases rest with
    | nil =>
      have hb := hr b (List.mem_singleton_self b) [] ends_nil
      rw [List.append_nil] at hb
      rw [List.map_cons, List.map_nil, List.intercalate_singleton, listed, hb]
      rfl
    | cons b' rest =>
      have hb := hr b List.mem_cons_self (.comma :: [.comma].intercalate ((b' :: rest).map f)) (ends_comma _)
      have hrest := ih (fun c hc => hr c (List.mem_cons_of_mem _ hc)) (List.cons_ne_nil _ _)
        (Nat.le_of_succ_le_succ hn)
      have hcons : [Lexeme.comma].intercalate ((b :: b' :: rest).map f) =
          f b ++ .comma :: [.comma].intercalate ((b' :: rest).map f) := by
        simp
      rw [hcons, listed, hb]
      simp only [hrest]
      rfl

theorem length_le_intercalate (lss : List (List Lexeme)) :
    lss.length ≤ ([.comma].intercalate lss).length + 1 := by
  induction lss with
  | nil => simp
  | cons ls rest ih =>
    cases rest with
    | nil => simp
    | cons ls' rest =>
      simp only [List.intercalate_cons_cons, List.length_cons, List.length_append, List.length_nil] at ih ⊢
      omega

/-- The text of terms is read as the columns that they are written as. -/
theorem readOrder_toText (d : Dialect) (ts : List OrderTerm) :
    readOrder d (", ".intercalate (ts.map (OrderTerm.toText d))) =
      some ((ts.flatMap (OrderTerm.columns d)).map SortColumn.item) := by
  have hc : ∀ c ∈ ts.flatMap (OrderTerm.columns d), d.hasNullsOrder = true ∨ c.nulls = none := by
    intro c hc
    obtain ⟨t, -, hct⟩ := List.mem_flatMap.mp hc
    exact OrderTerm.hasNullsOrder_of_mem_columns hct
  rw [OrderTerm.intercalate_toText, readOrder, (Spells.columns _).lex_eq]
  generalize ts.flatMap (OrderTerm.columns d) = cs at hc
  cases cs with
  | nil => rfl
  | cons c rest =>
    have hne : [Lexeme.comma].intercalate ((c :: rest).map SortColumn.lexemes) ≠ [] := by
      cases rest <;> simp [SortColumn.lexemes]
    have hlength := length_le_intercalate ((c :: rest).map SortColumn.lexemes)
    rw [List.length_map] at hlength
    have hlisted := listed_intercalate (fun c' hc' _ h => sortItem_column (hc c' hc') h)
      (List.cons_ne_nil c rest) hlength
    simp only [if_neg hne, hlisted]

end EntityQuery.Sql

import EntityQuery.Sql.Render
import Mathlib.Data.List.Infix

/-!
# Patterns of SQL

A pattern of `LIKE` is read as items: a character stands for itself, an underscore for one character and a
percent sign for any characters, unless the escape character stands before it (`likeItems`). A text matches
a pattern if the items can be laid side by side along the text (`matchesItems`).

What is written for a text matches that text alone (`matchesItems_literal`). So the pattern of a method of
texts matches the texts that have its argument at the right place (`matchesLike_likePattern`), whatever
characters the argument is made of.
-/

namespace EntityQuery.Sql

/-- A piece of a pattern. -/
inductive LikeItem where
  | literal (c : Char)
  /-- One character. -/
  | one
  /-- Any number of characters. -/
  | any
  deriving DecidableEq

/-- What a character means that is not escaped. -/
def LikeItem.ofChar (c : Char) : LikeItem :=
  if c = '%' then any else if c = '_' then one else literal c

/-- The items of a pattern. The escape character has to have another character after it. -/
def likeItems (escape : Char) : List Char → Option (List LikeItem)
  | [] => some []
  | [c] => if c = escape then none else some [.ofChar c]
  | c :: c' :: rest =>
    if c = escape then (likeItems escape rest).map (.literal c' :: ·)
    else (likeItems escape (c' :: rest)).map (.ofChar c :: ·)

/-- Whether a text consists of what the items of a pattern stand for. -/
def matchesItems : List LikeItem → List Char → Bool
  | [], s => s.isEmpty
  | .literal c :: rest, s =>
    match s with
    | c' :: s => c == c' && matchesItems rest s
    | [] => false
  | .one :: rest, s =>
    match s with
    | _ :: s => matchesItems rest s
    | [] => false
  | .any :: rest, s => s.tails.any (matchesItems rest)

/-- Whether a text matches a pattern. -/
def matchesLike (escape : Char) (pattern s : List Char) : Bool :=
  match likeItems escape pattern with
  | some is => matchesItems is s
  | none => false

/-! ### Reading patterns -/

theorem likeItems_escape (escape c : Char) (s : List Char) :
    likeItems escape (escape :: c :: s) = (likeItems escape s).map (.literal c :: ·) := by
  rw [likeItems, if_pos rfl]

theorem likeItems_of_ne {escape c : Char} (hc : c ≠ escape) (s : List Char) :
    likeItems escape (c :: s) = (likeItems escape s).map (.ofChar c :: ·) := by
  cases s with
  | nil => simp [likeItems, hc]
  | cons c' rest => rw [likeItems, if_neg hc]

/-- The pattern of a text is read as the characters of the text. -/
theorem likeItems_escapeLike (s t : List Char) :
    likeItems likeEscape (escapeLike s ++ t) =
      (likeItems likeEscape t).map (s.map LikeItem.literal ++ ·) := by
  induction s with
  | nil =>
    show likeItems likeEscape t = (likeItems likeEscape t).map fun is => is
    rw [Option.map_id']
  | cons c s ih =>
    have hstep : escapeLike (c :: s) ++ t =
        (if isLikeSpecial c then [likeEscape, c] else [c]) ++ (escapeLike s ++ t) := by
      rw [escapeLike, List.flatMap_cons, List.append_assoc]
      rfl
    rw [hstep]
    by_cases hc : isLikeSpecial c = true
    · rw [if_pos hc, List.cons_append, List.cons_append, List.nil_append, likeItems_escape, ih,
        Option.map_map]
      rfl
    · have hplain : ¬c = '%' ∧ ¬c = '_' ∧ ¬c = likeEscape := by
        simpa [isLikeSpecial, and_assoc] using hc
      obtain ⟨hany, hone, hescape⟩ := hplain
      have hitem : LikeItem.ofChar c = .literal c := by
        rw [LikeItem.ofChar, if_neg hany, if_neg hone]
      rw [if_neg hc, List.cons_append, List.nil_append, likeItems_of_ne hescape, ih, hitem,
        Option.map_map]
      rfl

/-! ### Matching -/

/-- Characters that stand for themselves take up the front of the text. -/
theorem matchesItems_literal_append {s t : List Char} {rest : List LikeItem} :
    matchesItems (s.map LikeItem.literal ++ rest) t = true ↔
      ∃ u, t = s ++ u ∧ matchesItems rest u = true := by
  induction s generalizing t with
  | nil => simp
  | cons c s ih =>
    cases t with
    | nil => simp [matchesItems]
    | cons c' t =>
      rw [List.map_cons, List.cons_append, matchesItems, Bool.and_eq_true, beq_iff_eq, ih]
      constructor
      · rintro ⟨rfl, u, rfl, hu⟩
        exact ⟨u, rfl, hu⟩
      · rintro ⟨u, ht, hu⟩
        obtain ⟨rfl, rfl⟩ := List.cons.inj ht
        exact ⟨rfl, u, rfl, hu⟩

/-- The rest of a pattern may match from any place on. -/
theorem matchesItems_any {rest : List LikeItem} {t : List Char} :
    matchesItems (.any :: rest) t = true ↔ ∃ u v, t = u ++ v ∧ matchesItems rest v = true := by
  rw [matchesItems, List.any_eq_true]
  constructor
  · rintro ⟨v, hv, hrest⟩
    obtain ⟨u, rfl⟩ := (List.mem_tails v t).mp hv
    exact ⟨u, v, rfl, hrest⟩
  · rintro ⟨u, v, rfl, hrest⟩
    exact ⟨v, (List.mem_tails v _).mpr (List.suffix_append u v), hrest⟩

/-- What may stand before, or after, the text that is looked for. -/
def padding (b : Bool) : List LikeItem := if b then [.any] else []

theorem matchesItems_padding_cons {b : Bool} {rest : List LikeItem} {t : List Char} :
    matchesItems (padding b ++ rest) t = true ↔
      ∃ u v, t = u ++ v ∧ (b = false → u = []) ∧ matchesItems rest v = true := by
  cases b with
  | true => simpa [padding] using matchesItems_any
  | false => simp [padding]

theorem matchesItems_padding {b : Bool} {t : List Char} :
    matchesItems (padding b) t = true ↔ (b = false → t = []) := by
  rw [← List.append_nil (padding b), matchesItems_padding_cons]
  constructor
  · rintro ⟨u, v, rfl, hu, hv⟩ hb
    rw [hu hb, List.isEmpty_iff.mp hv]
    rfl
  · intro ht
    exact ⟨t, [], (List.append_nil t).symm, ht, rfl⟩

/-- The pattern of a method is read as what it looks for, with anything before or after it. -/
theorem likeItems_likePattern (leading trailing : Bool) (mode : CaseMode) (needle : String) :
    likeItems likeEscape (likePattern leading trailing mode needle).toList =
      some (padding leading ++ ((mode.fold needle.toList).map LikeItem.literal ++ padding trailing)) := by
  have hend : likeItems likeEscape (if trailing then ['%'] else []) = some (padding trailing) := by
    cases trailing <;> rfl
  have hneedle : likeItems likeEscape (escapeLike (mode.fold needle.toList) ++
      if trailing then ['%'] else []) =
        some ((mode.fold needle.toList).map LikeItem.literal ++ padding trailing) := by
    rw [likeItems_escapeLike, hend]
    rfl
  rw [likePattern, String.toList_ofList, List.append_assoc]
  cases leading with
  | false => exact hneedle
  | true =>
    have hany := likeItems_of_ne (show '%' ≠ likeEscape by decide)
      (escapeLike (mode.fold needle.toList) ++ if trailing then ['%'] else [])
    rw [hneedle] at hany
    exact hany

/-- A text matches the pattern of a method if it has what is looked for at the right place. -/
theorem matchesLike_likePattern {leading trailing : Bool} {mode : CaseMode} {needle : String}
    {s : List Char} :
    matchesLike likeEscape (likePattern leading trailing mode needle).toList s = true ↔
      ∃ u v, s = u ++ (mode.fold needle.toList ++ v) ∧ (leading = false → u = []) ∧
        (trailing = false → v = []) := by
  rw [matchesLike, likeItems_likePattern]
  show matchesItems _ s = true ↔ _
  rw [matchesItems_padding_cons]
  constructor
  · rintro ⟨u, w, rfl, hu, hw⟩
    obtain ⟨v, rfl, hv⟩ := matchesItems_literal_append.mp hw
    exact ⟨u, v, rfl, hu, matchesItems_padding.mp hv⟩
  · rintro ⟨u, v, rfl, hu, hv⟩
    exact ⟨u, _, rfl, hu, matchesItems_literal_append.mpr ⟨v, rfl, matchesItems_padding.mpr hv⟩⟩

variable {mode : CaseMode} {needle : String} {s : List Char}

theorem matchesLike_contains :
    matchesLike likeEscape (likePattern true true mode needle).toList s = true ↔
      mode.fold needle.toList <:+: s := by
  rw [matchesLike_likePattern]
  constructor
  · rintro ⟨u, v, rfl, -, -⟩
    exact ⟨u, v, List.append_assoc ..⟩
  · rintro ⟨u, v, rfl⟩
    exact ⟨u, v, List.append_assoc .., nofun, nofun⟩

theorem matchesLike_startsWith :
    matchesLike likeEscape (likePattern false true mode needle).toList s = true ↔
      mode.fold needle.toList <+: s := by
  rw [matchesLike_likePattern]
  constructor
  · rintro ⟨u, v, rfl, hu, -⟩
    rw [hu rfl]
    exact ⟨v, rfl⟩
  · rintro ⟨v, rfl⟩
    exact ⟨[], v, rfl, fun _ => rfl, nofun⟩

theorem matchesLike_endsWith :
    matchesLike likeEscape (likePattern true false mode needle).toList s = true ↔
      mode.fold needle.toList <:+ s := by
  rw [matchesLike_likePattern]
  constructor
  · rintro ⟨u, v, rfl, -, hv⟩
    rw [hv rfl, List.append_nil]
    exact ⟨u, rfl⟩
  · rintro ⟨u, rfl⟩
    exact ⟨u, [], by rw [List.append_nil], nofun, fun _ => rfl⟩

/-- A percent sign that is looked for is not a wildcard. -/
example : matchesLike likeEscape (likePattern true true .ordinal "0%").toList "10 percent".toList = false := by
  decide

end EntityQuery.Sql

import EntityQuery.Proofs.Sql.Pattern
import EntityQuery.Proofs.Sql.Support
import EntityQuery.Proofs.Sql.Written
import Mathlib.Data.List.Forall2

/-!
# Searching for texts

What `LIKE` means is said here by rules on the characters of a pattern (`Sql.Like`): a percent sign stands for
any characters, an underscore for one, and the escape character takes away the meaning of the next one. The
matcher that lays items along a text decides the same (`Sql.matchesLike_iff`), and it has no items exactly for
the patterns that end in an escape character with nothing to escape (`Sql.likeItems_eq_none_iff`).

The patterns of a rendered condition are those of the searches in the expression, in their order
(`Expr.searches`, `Condition.likes`). Each matches the texts that have what is searched for at the right place,
and none is left unfinished (`Sql.render_searches`).
-/

namespace EntityQuery

namespace Sql

/-! ### Patterns -/

/-- Which texts match a pattern. -/
inductive Like (escape : Char) : List Char → List Char → Prop where
  | nil : Like escape [] []
  /-- A percent sign stands for any characters. -/
  | any {p u v : List Char} : '%' ≠ escape → Like escape p v → Like escape ('%' :: p) (u ++ v)
  /-- An underscore stands for one character. -/
  | one {c : Char} {p s : List Char} : '_' ≠ escape → Like escape p s → Like escape ('_' :: p) (c :: s)
  /-- An escaped character stands for itself. -/
  | escaped {c : Char} {p s : List Char} : Like escape p s → Like escape (escape :: c :: p) (c :: s)
  /-- So does every other character. -/
  | plain {c : Char} {p s : List Char} : c ≠ escape → c ≠ '%' → c ≠ '_' → Like escape p s →
      Like escape (c :: p) (c :: s)

/-- The pattern ends in an escape character that has nothing to escape. -/
inductive Dangling (escape : Char) : List Char → Prop where
  | last : Dangling escape [escape]
  | escaped {c : Char} {p : List Char} : Dangling escape p → Dangling escape (escape :: c :: p)
  | plain {c : Char} {p : List Char} : c ≠ escape → Dangling escape p → Dangling escape (c :: p)

/-- Induction over patterns, from one escaped or plain character to the next. -/
theorem pattern_induct (escape : Char) {motive : List Char → Prop} (nil : motive []) (last : motive [escape])
    (escaped : ∀ c p, motive p → motive (escape :: c :: p))
    (plain : ∀ c p, c ≠ escape → motive p → motive (c :: p)) (p : List Char) : motive p := by
  induction p using likeItems.induct escape with
  | case1 => exact nil
  | case2 => exact last
  | case3 c hc => exact plain c [] hc nil
  | case4 c rest ih => exact escaped c rest ih
  | case5 c c' rest hc ih => exact plain c _ hc ih

variable {escape : Char}

theorem likeItems_last : likeItems escape [escape] = none := by
  rw [likeItems, if_pos rfl]

theorem likeItems_eq_none_iff {p : List Char} : likeItems escape p = none ↔ Dangling escape p := by
  constructor
  · intro h
    induction p using pattern_induct escape with
    | nil => cases h
    | last => exact .last
    | escaped c p ih =>
      rw [likeItems_escape, Option.map_eq_none_iff] at h
      exact .escaped (ih h)
    | plain c p hc ih =>
      rw [likeItems_of_ne hc, Option.map_eq_none_iff] at h
      exact .plain hc (ih h)
  · intro h
    induction h with
    | last => exact likeItems_last
    | escaped _ ih => rw [likeItems_escape, ih, Option.map_none]
    | plain hc _ ih => rw [likeItems_of_ne hc, ih, Option.map_none]

/-- The item of a character that is not escaped matches what the character stands for. -/
theorem like_of_matchesItems {c : Char} {p s : List Char} {is : List LikeItem} (hc : c ≠ escape)
    (hp : ∀ t, matchesItems is t = true → Like escape p t) (h : matchesItems (.ofChar c :: is) s = true) :
    Like escape (c :: p) s := by
  by_cases hany : c = '%'
  · rw [LikeItem.ofChar, if_pos hany, matchesItems_any] at h
    obtain ⟨u, v, rfl, hv⟩ := h
    subst hany
    exact .any hc (hp v hv)
  by_cases hone : c = '_'
  · rw [LikeItem.ofChar, if_neg hany, if_pos hone] at h
    subst hone
    cases s with
    | nil => cases h
    | cons a s => exact .one hc (hp s h)
  · rw [LikeItem.ofChar, if_neg hany, if_neg hone] at h
    obtain ⟨u, rfl, hu⟩ := (matchesItems_literal_append (s := [c])).mp h
    exact .plain hc hany hone (hp u hu)

/-- What the items of a pattern match, the pattern matches. -/
theorem like_of_likeItems {p s : List Char} {is : List LikeItem} (hp : likeItems escape p = some is)
    (h : matchesItems is s = true) : Like escape p s := by
  induction p using pattern_induct escape generalizing s is with
  | nil =>
    obtain rfl := Option.some.inj hp
    obtain rfl : s = [] := List.isEmpty_iff.mp h
    exact .nil
  | last =>
    rw [likeItems_last] at hp
    cases hp
  | escaped c p ih =>
    rw [likeItems_escape] at hp
    obtain ⟨is, his, rfl⟩ := Option.map_eq_some_iff.mp hp
    obtain ⟨u, rfl, hu⟩ := (matchesItems_literal_append (s := [c])).mp h
    exact .escaped (ih his hu)
  | plain c p hc ih =>
    rw [likeItems_of_ne hc] at hp
    obtain ⟨is, his, rfl⟩ := Option.map_eq_some_iff.mp hp
    exact like_of_matchesItems hc (fun t ht => ih his ht) h

/-- A pattern that a text matches has items, which match the text. -/
theorem Like.exists_likeItems {p s : List Char} (h : Like escape p s) :
    ∃ is, likeItems escape p = some is ∧ matchesItems is s = true := by
  induction h with
  | nil => exact ⟨[], rfl, rfl⟩
  | any hc _ ih =>
    obtain ⟨is, his, hs⟩ := ih
    refine ⟨.any :: is, ?_, matchesItems_any.mpr ⟨_, _, rfl, hs⟩⟩
    rw [likeItems_of_ne hc, his]
    rfl
  | one hc _ ih =>
    obtain ⟨is, his, hs⟩ := ih
    refine ⟨.one :: is, ?_, hs⟩
    rw [likeItems_of_ne hc, his]
    rfl
  | @escaped c _ _ _ ih =>
    obtain ⟨is, his, hs⟩ := ih
    refine ⟨.literal c :: is, ?_, (matchesItems_literal_append (s := [c])).mpr ⟨_, rfl, hs⟩⟩
    rw [likeItems_escape, his]
    rfl
  | @plain c _ _ hc hany hone _ ih =>
    obtain ⟨is, his, hs⟩ := ih
    refine ⟨.literal c :: is, ?_, (matchesItems_literal_append (s := [c])).mpr ⟨_, rfl, hs⟩⟩
    rw [likeItems_of_ne hc, his, LikeItem.ofChar, if_neg hany, if_neg hone]
    rfl

/-- The matcher decides what the rules say. -/
theorem matchesLike_iff {p s : List Char} : matchesLike escape p s = true ↔ Like escape p s := by
  rw [matchesLike]
  constructor
  · intro h
    cases hp : likeItems escape p with
    | none =>
      rw [hp] at h
      cases h
    | some is =>
      rw [hp] at h
      exact like_of_likeItems hp h
  · intro h
    obtain ⟨is, his, hs⟩ := h.exists_likeItems
    rw [his]
    exact hs

/-- The pattern of a search is finished, whatever is searched for. -/
theorem not_dangling_likePattern (leading trailing : Bool) (mode : CaseMode) (needle : String) :
    ¬Dangling likeEscape (likePattern leading trailing mode needle).toList := by
  rw [← likeItems_eq_none_iff, likeItems_likePattern]
  exact nofun

end Sql

/-! ### Searches -/

/-- The text has what the method searches for at the place where the method searches for it. Both are turned into
lower case if the method ignores the case. -/
def Method.Finds (m : Method) (needle s : List Char) : Prop :=
  match m with
  | contains mode => mode.fold needle <:+: mode.fold s
  | startsWith mode => mode.fold needle <+: mode.fold s
  | endsWith mode => mode.fold needle <:+ mode.fold s
  | textEquals _ | isDefault | overlaps | setEquals => False

variable {S : Schema}

/-- The searches of a condition for literal texts, in their order. -/
def Expr.searches : Expr S → List (Method × String)
  | .call m _ [.constant (.string needle)] => if (Sql.patternOf m).isSome then [(m, needle)] else []
  | .and l r | .or l r => l.searches ++ r.searches
  | .not e => e.searches
  | _ => []

namespace Sql

/-- The patterns of a condition in their order, each with what is matched with it. -/
def Condition.likes : Condition → List (Scalar × String)
  | like s pattern => [(s, pattern)]
  | and l r | or l r => l.likes ++ r.likes
  | notTrue c => c.likes
  | literal _ | compare .. | nullOr .. | isIn .. => []

/-- The patterns are bound to placeholders. -/
theorem Condition.likes_sublist (c : Condition) :
    (c.likes.map fun l => Value.string l.2).Sublist c.values := by
  induction c with
  | literal | compare | nullOr | isIn => exact List.nil_sublist _
  | like s pattern => exact List.sublist_append_right _ _
  | and l r ihl ihr | or l r ihl ihr =>
    rw [likes, List.map_append]
    exact ihl.append ihr
  | notTrue c ih => exact ih

/-- The pattern does what a search asks for. It is matched with the text of a column, which is turned into lower
case if the method ignores the case; and it matches exactly the texts in which the method finds the needle. -/
structure Serves (search : Method × String) (like : Scalar × String) : Prop where
  scalar : ∃ mode c, search.1.mode? = some mode ∧ like.1 = textScalar mode c
  finished : ¬Dangling likeEscape like.2.toList
  matches_iff : ∀ mode, search.1.mode? = some mode → ∀ s : List Char,
    Like likeEscape like.2.toList (mode.fold s) ↔ search.1.Finds search.2.toList s

/-- The pattern of a method matches the texts in which the method finds the needle. -/
theorem matchesLike_iff_finds {m : Method} {mode : CaseMode} {leading trailing : Bool}
    (h : patternOf m = some (mode, leading, trailing)) {needle : String} {s : List Char} :
    matchesLike likeEscape (likePattern leading trailing mode needle).toList (mode.fold s) = true ↔
      m.Finds needle.toList s := by
  cases m with
  | contains =>
    cases h
    exact matchesLike_contains
  | startsWith =>
    cases h
    exact matchesLike_startsWith
  | endsWith =>
    cases h
    exact matchesLike_endsWith
  | textEquals | isDefault | overlaps | setEquals => cases h

theorem mode?_of_patternOf {m : Method} {mode : CaseMode} {leading trailing : Bool}
    (h : patternOf m = some (mode, leading, trailing)) : m.mode? = some mode := by
  cases m with
  | contains | startsWith | endsWith =>
    cases h
    rfl
  | textEquals | isDefault | overlaps | setEquals => cases h

/-- The pattern that is written for a search serves it. -/
theorem serves_likePattern {m : Method} {mode : CaseMode} {leading trailing : Bool}
    (h : patternOf m = some (mode, leading, trailing)) (needle : String) (c : Column) :
    Serves (m, needle) (textScalar mode c, likePattern leading trailing mode needle) where
  scalar := ⟨mode, c, mode?_of_patternOf h, rfl⟩
  finished := not_dangling_likePattern leading trailing mode needle
  matches_iff mode' hmode s := by
    obtain rfl : mode = mode' := Option.some.inj ((mode?_of_patternOf h).symm.trans hmode)
    rw [← matchesLike_iff]
    exact matchesLike_iff_finds h

variable {bound : Parameter S}

/-- A call that is no pattern is no search. -/
theorem searches_call {m : Method} (h : patternOf m = none) (target : Expr S) (args : List (Expr S)) :
    (Expr.call m target args).searches = [] := by
  unfold Expr.searches
  split
  all_goals simp_all

/-- The patterns of a condition serve the searches of the expression that it stands for, one each. -/
theorem Rendered.likes {e : Expr S} {c : Condition} (h : Rendered bound e c) :
    List.Forall₂ Serves e.searches c.likes := by
  induction h with
  | truth | flag | compare | unequal => exact .nil
  | @like m mode leading trailing target p c needle hm _ =>
    have hsearches : (Expr.call m (.member target p) [.constant (.string needle)]).searches = [(m, needle)] := by
      rw [Expr.searches, hm]
      rfl
    rw [hsearches]
    exact .cons (serves_likePattern hm needle c) .nil
  | textEquals | isDefault | overlapsNone | overlaps =>
    rw [searches_call rfl]
    exact .nil
  | and _ _ ihl ihr | or _ _ ihl ihr => exact List.rel_append ihl ihr
  | not _ ih => exact ih

variable {t : S.Entity} {d : Dialect} {tree : Tree S t}

theorem searches_of_render {q : Fragment} (h : render d tree = .ok q) :
    ∃ c : Condition, q = .ofTokens d 0 c.tokens ∧ List.Forall₂ Serves tree.body.searches c.likes ∧
      (c.likes.map fun l => Value.string l.2).Sublist q.params := by
  obtain ⟨c, hc, rfl⟩ := exists_rendered_of_render h
  refine ⟨c, rfl, hc.likes, ?_⟩
  rw [Fragment.ofTokens, boundValues_condition]
  exact c.likes_sublist

/-- A search in a single property is rendered, and its pattern is all that is bound. -/
theorem render_search {m : Method} {mode : CaseMode} {leading trailing : Bool} {target : Expr S} {p : Member S}
    {needle : String} (hm : patternOf m = some (mode, leading, trailing))
    (hbody : tree.body = .call m (.member target p) [.constant (.string needle)])
    (hfits : tree.body.Fits tree.parameter .condition) (hp : p.type.isCollection = false) :
    ∃ q s pattern, render d tree = .ok q ∧ q.params = [.string pattern] ∧ Serves (m, needle) (s, pattern) := by
  have hwith : m.rendersWith (.constant (.string needle) : Expr S) = true := by
    cases m with
    | contains | startsWith | endsWith => rfl
    | textEquals | isDefault | overlaps | setEquals => cases hm
  have hsql : tree.body.hasSql = true := by
    rw [hbody, Expr.hasSql, Expr.isColumn, hp, List.all_cons, hwith]
    rfl
  obtain ⟨q, hq⟩ := (render_isOk_iff hfits d).mpr hsql
  obtain ⟨c, hc, rfl⟩ := exists_rendered_of_render hq
  rw [hbody] at hc
  cases hc with
  | @like _ mode' leading' trailing' _ _ column _ hm' _ =>
    refine ⟨_, textScalar mode' column, likePattern leading' trailing' mode' needle, hq, ?_,
      serves_likePattern hm' needle column⟩
    rw [Fragment.ofTokens, boundValues_condition]
    cases mode' <;> rfl
  | textEquals | overlapsNone | overlaps => cases hm

/-- The patterns that a rendered tree binds are those of its searches, in their order, and a search for any text
in a single property is rendered. Each pattern is finished, and it matches the texts that contain what is
searched for, start with it or end with it. -/
theorem render_searches (t : S.Entity) (d : Dialect) (tree : Tree S t) :
    (∀ q, render d tree = .ok q →
      ∃ c : Condition, q = .ofTokens d 0 c.tokens ∧ List.Forall₂ Serves tree.body.searches c.likes ∧
        (c.likes.map fun l => Value.string l.2).Sublist q.params) ∧
    ∀ (m : Method) (target : Expr S) (p : Member S) (needle : String), (patternOf m).isSome = true →
      tree.body = .call m (.member target p) [.constant (.string needle)] → p.type.isCollection = false →
      (∃ f, tree.compile = .ok f) →
        ∃ q s pattern, render d tree = .ok q ∧ q.params = [.string pattern] ∧ Serves (m, needle) (s, pattern) := by
  refine ⟨fun q h => searches_of_render h, fun m target p needle hm hbody hp ⟨f, hf⟩ => ?_⟩
  obtain ⟨⟨mode, leading, trailing⟩, hm⟩ := Option.isSome_iff_exists.mp hm
  exact render_search hm hbody (Tree.compile_eq_ok_iff_fits.mp hf).1 hp

/-- Wildcards and escape characters that names are searched for stand for themselves. -/
theorem render_searches_percent :
    (∃ q s pattern, render .mysql People.candidate = .ok q ∧
      Serves (.contains .ignoreCase, "%") (s, pattern) ∧ Value.string pattern ∈ q.params) ∧
    ∃ q s pattern, render .sqlite (People.startingWith "50%_!") = .ok q ∧ q.params = [.string pattern] ∧
      Serves (.startsWith .ordinal, "50%_!") (s, pattern) := by
  obtain ⟨hcandidate, -⟩ := render_searches People.person .mysql People.candidate
  obtain ⟨-, hnamed⟩ := render_searches People.person .sqlite (People.startingWith "50%_!")
  refine ⟨?_, hnamed (.startsWith .ordinal) (.parameter People.x) People.name "50%_!" rfl rfl rfl ⟨_, rfl⟩⟩
  obtain ⟨q, hq⟩ : ∃ q, render .mysql People.candidate = .ok q := ⟨_, rfl⟩
  obtain ⟨c, -, hlikes, hparams⟩ := hcandidate q hq
  rw [show People.candidate.body.searches = [(.contains .ignoreCase, "%")] from rfl] at hlikes
  generalize c.likes = likes at hlikes hparams
  cases hlikes with
  | @cons _ like _ _ hserves _ =>
    exact ⟨q, like.1, like.2, hq, hserves, hparams.subset (List.mem_cons_self ..)⟩

end Sql

end EntityQuery

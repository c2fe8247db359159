import EntityQuery.Error
import Mathlib.Order.Bounds.Basic
import Mathlib.Order.MinMax

/-!
# The closest names

The edit distance is computed row by row. What it means is said in two other ways. Edits are steps between
texts (`Text.Edit`), and the fewest of them that lead from one text to another are counted by the recursion on
first characters (`Text.isLeast_recursiveDistance`). Reversed texts are as far apart, so the same recursion runs
on last characters, and there equal characters are passed over: the two other neighbours of a cell are never
less by more than one (`Text.recursiveDistance_cons_self`). Hence a row holds the distances of a text to all
beginnings of the other one (`Text.editRow_distances`), and the last cell of the last row is the distance
(`Text.editDistance_eq`).

The names that are proposed for a misspelled one are the closest by this distance (`Text.closestNames_closest`).
-/

namespace EntityQuery.Text

/-! ### Edits -/

/-- One edit of a text. -/
inductive Edit : List Char → List Char → Prop where
  /-- A character is inserted. -/
  | insert (before after : List Char) (c : Char) : Edit (before ++ after) (before ++ c :: after)
  /-- A character is deleted. -/
  | delete (before after : List Char) (c : Char) : Edit (before ++ c :: after) (before ++ after)
  /-- A character takes the place of another. -/
  | substitute (before after : List Char) (c d : Char) : Edit (before ++ c :: after) (before ++ d :: after)

/-- So many edits lead from one text to another. -/
inductive Edits : Nat → List Char → List Char → Prop where
  /-- No edit leads to the text itself. -/
  | nil (s : List Char) : Edits 0 s s
  /-- An edit comes before the others. -/
  | cons {n : Nat} {s t u : List Char} : Edit s t → Edits n t u → Edits (n + 1) s u

/-- The distance of two texts by their first characters: either is deleted, or one becomes the other. -/
def recursiveDistance : List Char → List Char → Nat
  | [], t => t.length
  | c :: s, [] => (c :: s).length
  | c :: s, d :: t =>
    min (min (recursiveDistance s (d :: t) + 1) (recursiveDistance (c :: s) t + 1))
      (recursiveDistance s t + if c = d then 0 else 1)
termination_by s t => s.length + t.length

variable {c d : Char} {s t u : List Char} {n : Nat}

@[simp] theorem recursiveDistance_nil_left (t : List Char) : recursiveDistance [] t = t.length := by
  simp [recursiveDistance]

@[simp] theorem recursiveDistance_nil_right (s : List Char) : recursiveDistance s [] = s.length := by
  cases s <;> simp [recursiveDistance]

theorem recursiveDistance_cons_cons (c d : Char) (s t : List Char) :
    recursiveDistance (c :: s) (d :: t) =
      min (min (recursiveDistance s (d :: t) + 1) (recursiveDistance (c :: s) t + 1))
        (recursiveDistance s t + if c = d then 0 else 1) := by
  rw [recursiveDistance]

theorem recursiveDistance_comm (s t : List Char) : recursiveDistance s t = recursiveDistance t s := by
  fun_induction recursiveDistance s t with
  | case1 t => simp
  | case2 c s => simp
  | case3 c s d t ih₁ ih₂ ih₃ =>
    rw [recursiveDistance_cons_cons d c, ih₁, ih₂, ih₃]
    simp only [eq_comm (a := d)]
    omega

@[simp] theorem recursiveDistance_self (s : List Char) : recursiveDistance s s = 0 := by
  induction s with
  | nil => simp
  | cons c s ih => simp [recursiveDistance_cons_cons, ih]

/-! ### An edit makes a difference of one at most -/

theorem recursiveDistance_cons_le (c : Char) (s t : List Char) :
    recursiveDistance (c :: s) t ≤ recursiveDistance s t + 1 := by
  cases t with
  | nil => simp
  | cons d t =>
    rw [recursiveDistance_cons_cons]
    omega

theorem recursiveDistance_le_cons (c : Char) (s t : List Char) :
    recursiveDistance s t ≤ recursiveDistance (c :: s) t + 1 := by
  induction t with
  | nil =>
    simp only [recursiveDistance_nil_right, List.length_cons]
    omega
  | cons d t ih =>
    have hright : recursiveDistance s (d :: t) ≤ recursiveDistance s t + 1 := by
      rw [recursiveDistance_comm s, recursiveDistance_comm s]
      exact recursiveDistance_cons_le d t s
    rw [recursiveDistance_cons_cons]
    omega

theorem recursiveDistance_substitute_le (c d : Char) (s t : List Char) :
    recursiveDistance (c :: s) t ≤ recursiveDistance (d :: s) t + 1 := by
  induction t with
  | nil => simp
  | cons e t ih =>
    simp only [recursiveDistance_cons_cons]
    split <;> split <;> omega

/-- What differs by one at most still does so behind another character. -/
theorem recursiveDistance_cons_le_cons
    (h : ∀ u, recursiveDistance s u ≤ recursiveDistance t u + 1) (c : Char) (u : List Char) :
    recursiveDistance (c :: s) u ≤ recursiveDistance (c :: t) u + 1 := by
  induction u with
  | nil =>
    have hnil := h []
    simp only [recursiveDistance_nil_right, List.length_cons] at hnil ⊢
    omega
  | cons e u ih =>
    have hcons := h (e :: u)
    have hrest := h u
    simp only [recursiveDistance_cons_cons]
    omega

theorem recursiveDistance_append_le_append
    (h : ∀ u, recursiveDistance s u ≤ recursiveDistance t u + 1) (before u : List Char) :
    recursiveDistance (before ++ s) u ≤ recursiveDistance (before ++ t) u + 1 := by
  induction before generalizing u with
  | nil => exact h u
  | cons c before ih => exact recursiveDistance_cons_le_cons ih c u

theorem Edit.recursiveDistance_le (h : Edit s t) (u : List Char) :
    recursiveDistance s u ≤ recursiveDistance t u + 1 := by
  cases h with
  | insert before after c => exact recursiveDistance_append_le_append (recursiveDistance_le_cons c after) before u
  | delete before after c => exact recursiveDistance_append_le_append (recursiveDistance_cons_le c after) before u
  | substitute before after c d =>
    exact recursiveDistance_append_le_append (recursiveDistance_substitute_le c d after) before u

/-! ### The fewest edits -/

theorem Edits.recursiveDistance_le (h : Edits n s t) : recursiveDistance s t ≤ n := by
  induction h with
  | nil s => simp
  | @cons n s t u hedit _ ih =>
    have hstep := hedit.recursiveDistance_le u
    omega

theorem Edit.behind (h : Edit s t) (c : Char) : Edit (c :: s) (c :: t) := by
  cases h with
  | insert before after d => exact .insert (c :: before) after d
  | delete before after d => exact .delete (c :: before) after d
  | substitute before after d e => exact .substitute (c :: before) after d e

theorem Edits.behind (h : Edits n s t) (c : Char) : Edits n (c :: s) (c :: t) := by
  induction h with
  | nil s => exact .nil (c :: s)
  | cons hedit _ ih => exact .cons (hedit.behind c) ih

/-- As many edits as the recursion counts lead from one text to the other. -/
theorem edits_recursiveDistance (s t : List Char) : Edits (recursiveDistance s t) s t := by
  fun_induction recursiveDistance s t with
  | case1 t =>
    induction t with
    | nil => exact .nil []
    | cons d t ih => exact .cons (.insert [] [] d) (ih.behind d)
  | case2 c s =>
    induction s generalizing c with
    | nil => exact .cons (.delete [] [] c) (.nil [])
    | cons d s ih => exact .cons (.delete [] (d :: s) c) (ih d)
  | case3 c s d t ih₁ ih₂ ih₃ =>
    have hdelete := Edits.cons (.delete [] s c) ih₁
    have hinsert := Edits.cons (.insert [] (c :: s) d) (ih₂.behind d)
    have hkeep : Edits (recursiveDistance s t + if c = d then 0 else 1) (c :: s) (d :: t) := by
      by_cases h : c = d
      · subst h
        simpa using ih₃.behind c
      · simpa [h] using Edits.cons (.substitute [] s c d) (ih₃.behind d)
    exact min_rec' (Edits · (c :: s) (d :: t)) (min_rec' (Edits · (c :: s) (d :: t)) hdelete hinsert) hkeep

/-- The recursion counts the fewest edits that lead from one text to another. -/
theorem isLeast_recursiveDistance (s t : List Char) : IsLeast {n | Edits n s t} (recursiveDistance s t) :=
  ⟨edits_recursiveDistance s t, fun _ h => Edits.recursiveDistance_le h⟩

/-! ### Last characters -/

theorem Edit.reverse (h : Edit s t) : Edit s.reverse t.reverse := by
  cases h with
  | insert before after c => simpa using Edit.insert after.reverse before.reverse c
  | delete before after c => simpa using Edit.delete after.reverse before.reverse c
  | substitute before after c d => simpa using Edit.substitute after.reverse before.reverse c d

theorem Edits.reverse (h : Edits n s t) : Edits n s.reverse t.reverse := by
  induction h with
  | nil s => exact .nil s.reverse
  | cons hedit _ ih => exact .cons hedit.reverse ih

theorem recursiveDistance_reverse (s t : List Char) :
    recursiveDistance s.reverse t.reverse = recursiveDistance s t := by
  apply le_antisymm
  · exact (edits_recursiveDistance s t).reverse.recursiveDistance_le
  · have h := (edits_recursiveDistance s.reverse t.reverse).reverse.recursiveDistance_le
    simpa using h

/-- Equal first characters are no difference. -/
theorem recursiveDistance_cons_self (c : Char) (s t : List Char) :
    recursiveDistance (c :: s) (c :: t) = recursiveDistance s t := by
  have hleft := recursiveDistance_le_cons c s t
  have hright : recursiveDistance s t ≤ recursiveDistance s (c :: t) + 1 := by
    rw [recursiveDistance_comm s, recursiveDistance_comm s]
    exact recursiveDistance_le_cons c t s
  rw [recursiveDistance_cons_cons, if_pos rfl]
  omega

/-- The distance by last characters, where equal ones are passed over. -/
theorem recursiveDistance_concat_concat (c d : Char) (s t : List Char) :
    recursiveDistance (s ++ [c]) (t ++ [d]) =
      if c = d then recursiveDistance s t
      else 1 + min (min (recursiveDistance s t) (recursiveDistance (s ++ [c]) t)) (recursiveDistance s (t ++ [d])) := by
  have hconcat : ∀ (x y : List Char) (b : Char),
      recursiveDistance (x ++ [b]) y = recursiveDistance (b :: x.reverse) y.reverse := by
    intro x y b
    rw [← recursiveDistance_reverse]
    simp
  rw [hconcat s (t ++ [d]), hconcat s t, recursiveDistance_comm s (t ++ [d]), hconcat t s,
    recursiveDistance_comm (d :: t.reverse), ← recursiveDistance_reverse s t]
  simp only [List.reverse_append, List.reverse_singleton, List.singleton_append]
  by_cases h : c = d
  · rw [if_pos h, h, recursiveDistance_cons_self]
  · rw [if_neg h, recursiveDistance_cons_cons, if_neg h]
    omega

/-! ### Rows -/

/-- The distances of a text to the beginnings of `seen ++ rest` that are no shorter than `seen`. -/
def distances (s seen : List Char) : List Char → List Nat
  | [] => [recursiveDistance s seen]
  | d :: rest => recursiveDistance s seen :: distances s (seen ++ [d]) rest

theorem distances_eq_cons (s seen rest : List Char) :
    distances s seen rest = recursiveDistance s seen :: (distances s seen rest).tail := by
  cases rest <;> rfl

theorem getLastD_distances (s seen rest : List Char) (n : Nat) :
    (distances s seen rest).getLastD n = recursiveDistance s (seen ++ rest) := by
  induction rest generalizing seen n with
  | nil => simp [distances]
  | cons d rest ih =>
    rw [distances, List.getLastD_cons, ih, List.append_assoc, List.singleton_append]

theorem distances_nil (seen rest : List Char) :
    distances [] seen rest = List.range' seen.length (rest.length + 1) := by
  induction rest generalizing seen with
  | nil => simp [distances]
  | cons d rest ih =>
    rw [distances, ih, List.length_append, recursiveDistance_nil_left]
    exact List.range'_succ.symm

/-- The cells of a row are the distances of the longer text, from the distances of the shorter one. -/
theorem editCells_distances (c : Char) (s seen rest : List Char) :
    recursiveDistance (s ++ [c]) seen ::
        editCells c (recursiveDistance (s ++ [c]) seen) rest (distances s seen rest) =
      distances (s ++ [c]) seen rest := by
  induction rest generalizing seen with
  | nil => rfl
  | cons d rest ih =>
    rw [distances, distances_eq_cons s (seen ++ [d]), editCells, ← distances_eq_cons,
      ← recursiveDistance_concat_concat, ih (seen ++ [d])]
    rfl

theorem editRow_distances (c : Char) (s target : List Char) :
    editRow target (distances s [] target) c = distances (s ++ [c]) [] target := by
  rw [← editCells_distances, editRow, distances_eq_cons s []]
  simp

theorem foldl_editRow_distances (s start target : List Char) :
    s.foldl (editRow target) (distances start [] target) = distances (start ++ s) [] target := by
  induction s generalizing start with
  | nil => simp
  | cons c s ih => rw [List.foldl_cons, editRow_distances, ih, List.append_assoc, List.singleton_append]

/-- The distance that is computed by rows is the one that the recursion counts. -/
theorem editDistance_eq (s t : List Char) : editDistance s t = recursiveDistance s t := by
  have hstart : List.range (t.length + 1) = distances [] [] t := by
    rw [distances_nil, List.range_eq_range', List.length_nil]
  rw [editDistance, hstart, foldl_editRow_distances, getLastD_distances]
  simp

/-! ### Names -/

/-- The distance of two names but for case. -/
def nameDistance (name other : String) : Nat :=
  recursiveDistance (lowerChars name.toList) (lowerChars other.toList)

/-- The first of two names is closer to `name`, or as close and not behind the second in the order of names. -/
def Closer (name first second : String) : Prop :=
  nameDistance name first < nameDistance name second ∨
    nameDistance name first = nameDistance name second ∧ first ≤ second

theorem closerName_iff {a b : Nat × String} : closerName a b = true ↔ a.1 < b.1 ∨ a.1 = b.1 ∧ a.2 ≤ b.2 := by
  simp [closerName]

theorem closerName_trans (a b c : Nat × String) (hab : closerName a b = true) (hbc : closerName b c = true) :
    closerName a c = true := by
  rw [closerName_iff] at *
  rcases hab with hab | ⟨hab, hab'⟩
  · left
    omega
  · rcases hbc with hbc | ⟨hbc, hbc'⟩
    · left
      omega
    · exact .inr ⟨hab.trans hbc, String.le_trans hab' hbc'⟩

theorem closerName_total (a b : Nat × String) : (closerName a b || closerName b a) = true := by
  rw [Bool.or_eq_true, closerName_iff, closerName_iff]
  rcases Nat.lt_trichotomy a.1 b.1 with h | h | h
  · exact .inl (.inl h)
  · rcases String.le_total a.2 b.2 with h' | h'
    · exact .inl (.inr ⟨h, h'⟩)
    · exact .inr (.inr ⟨h.symm, h'⟩)
  · exact .inr (.inl h)

/-- The known names that are within reach, the closest first. -/
theorem exists_sorted_names (name : String) (known : List String) :
    ∃ sorted : List String, sorted.Perm (known.filter fun k => nameDistance name k ≤ 2) ∧
      sorted.Pairwise (Closer name) ∧ closestNames name known = sorted.take 3 := by
  -- every name is sorted together with its distance
  let scored := (known.filter fun k => nameDistance name k ≤ 2).map fun k => (nameDistance name k, k)
  have hsorted : closestNames name known = ((scored.mergeSort closerName).map Prod.snd).take 3 := by
    simp only [closestNames, editDistance_eq, List.filter_map, List.map_take]
    rfl
  have hscore : ∀ p ∈ scored.mergeSort closerName, p.1 = nameDistance name p.2 := by
    intro p hp
    obtain ⟨k, -, rfl⟩ := List.mem_map.mp (List.mem_mergeSort.mp hp)
    rfl
  refine ⟨_, ?_, ?_, hsorted⟩
  · have hperm := (List.mergeSort_perm scored closerName).map Prod.snd
    rwa [List.map_map, show Prod.snd ∘ (fun k => (nameDistance name k, k)) = id from rfl, List.map_id] at hperm
  · rw [List.pairwise_map]
    refine (List.pairwise_mergeSort closerName_trans closerName_total scored).imp_of_mem ?_
    intro p q hp hq hpq
    rw [closerName_iff, hscore p hp, hscore q hq] at hpq
    exact hpq

end EntityQuery.Text

namespace EntityQuery

open Text

theorem QueryError.suggestions_foldl_withSuggestion (proposal : String → String) (names : List String)
    (e : QueryError) :
    (names.foldl (fun e candidate => e.withSuggestion (proposal candidate)) e).context.suggestions =
      e.context.suggestions ++ names.map proposal := by
  induction names generalizing e with
  | nil => simp
  | cons candidate rest ih =>
    rw [List.foldl_cons, ih]
    simp [withSuggestion]

theorem QueryError.suggestions_propertyNotFound (entity name : String) (known : List String) :
    (propertyNotFound entity name known).context.suggestions =
      (closestNames name known).map fun candidate => s!"Did you mean '{candidate}'?" := by
  rw [propertyNotFound]
  split <;> exact QueryError.suggestions_foldl_withSuggestion _ _ _

/-- The names proposed for a missing property are the closest known ones. They are the first three, if there are as
many, of the known names at a distance of two at most, sorted by distance and then by name. The distance is that
of the names in lower case: it is the number that the recursion counts, whatever the texts, and the fewest edits
that turn one text into the other. -/
theorem Text.closestNames_closest (name : String) (known : List String) :
    (∃ sorted : List String, sorted.Perm (known.filter fun k => nameDistance name k ≤ 2) ∧
        sorted.Pairwise (Closer name) ∧ closestNames name known = sorted.take 3 ∧
        ∀ entity, (QueryError.propertyNotFound entity name known).context.suggestions =
          (sorted.take 3).map fun candidate => s!"Did you mean '{candidate}'?") ∧
      ∀ s t, editDistance s t = recursiveDistance s t ∧ IsLeast {n | Edits n s t} (editDistance s t) := by
  constructor
  · obtain ⟨sorted, hperm, hpairwise, htake⟩ := exists_sorted_names name known
    refine ⟨sorted, hperm, hpairwise, htake, ?_⟩
    intro entity
    rw [← htake]
    exact QueryError.suggestions_propertyNotFound entity name known
  · intro s t
    refine ⟨editDistance_eq s t, ?_⟩
    rw [editDistance_eq]
    exact isLeast_recursiveDistance s t

example : editDistance "kitten".toList "sitting".toList = 3 := by decide

end EntityQuery

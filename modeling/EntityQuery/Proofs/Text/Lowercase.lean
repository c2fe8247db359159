import EntityQuery.Text.Lowercase
import Mathlib.Data.List.Infix
import Mathlib.Data.List.TakeWhile

/-!
# Lower case of parts

The lower case of a text is not put together from those of its parts, since the form of a capital sigma depends
on what stands around it. What a part of a text becomes between the rest of it is said here
(`Text.lowerBetween`). It is the lower case of the part alone exactly if no capital sigma of the part changes
its form (`Text.lowerBetween_eq_lowerChars_iff`), and only a sigma at an edge of the part can do so
(`Text.KeepsSigmas.of_inner`). So what starts, ends or is in a text need not do so in lower case, but it does if
its sigmas are kept (`Text.lowerChars_prefix_iff`, `Text.lowerChars_suffix_iff`, `Text.lowerChars_infix`).
-/

namespace EntityQuery.Text

/-! ### Surroundings -/

/-- Whether a capital sigma between two texts ends a word. The text before it is given last character first. -/
def isFinalSigma (before after : List Char) : Bool := startsCased before && !startsCased after

/-- The lower case of a character between two texts, of which the first is given last character first. -/
def lowerAt (before after : List Char) (c : Char) : List Char :=
  if c = 'Σ' then [if isFinalSigma before after then 'ς' else 'σ'] else lowerChar c

/-- The lower case of a part between two texts, of which the first is given last character first. -/
def lowerBetween (before after : List Char) : List Char → List Char
  | [] => []
  | c :: rest => lowerAt before (rest ++ after) c ++ lowerBetween (c :: before) after rest

variable {before before' after after' : List Char}

theorem lowerAfter_eq_lowerBetween (before s : List Char) : lowerAfter before s = lowerBetween before [] s := by
  induction s generalizing before with
  | nil => rfl
  | cons c rest ih =>
    rw [lowerAfter, lowerBetween, lowerAt, isFinalSigma, List.append_nil, ih]
    split <;> rfl

theorem lowerChars_eq_lowerBetween (s : List Char) : lowerChars s = lowerBetween [] [] s :=
  lowerAfter_eq_lowerBetween [] s

theorem lowerBetween_append (before after s t : List Char) :
    lowerBetween before after (s ++ t) =
      lowerBetween before (t ++ after) s ++ lowerBetween (s.reverse ++ before) after t := by
  induction s generalizing before with
  | nil => rfl
  | cons c rest ih => simp [lowerBetween, ih]

/-! ### Changes of form -/

theorem lowerAt_eq_iff {c : Char} :
    lowerAt before after c = lowerAt before' after' c ↔
      (c = 'Σ' → isFinalSigma before after = isFinalSigma before' after') := by
  by_cases hc : c = 'Σ'
  · rw [lowerAt, lowerAt, if_pos hc, if_pos hc]
    cases isFinalSigma before after <;> cases isFinalSigma before' after' <;> simp [hc]
  · rw [lowerAt, lowerAt, if_neg hc, if_neg hc]
    exact iff_of_true rfl fun h => absurd h hc

theorem length_lowerAt (before before' after after' : List Char) (c : Char) :
    (lowerAt before after c).length = (lowerAt before' after' c).length := by
  unfold lowerAt
  split <;> rfl

theorem length_lowerBetween (before before' after after' s : List Char) :
    (lowerBetween before after s).length = (lowerBetween before' after' s).length := by
  induction s generalizing before before' with
  | nil => rfl
  | cons c rest ih =>
    rw [lowerBetween, lowerBetween, List.length_append, List.length_append, ih (c :: before) (c :: before'),
      length_lowerAt before before']

/-- The lower cases of a part in two places are the same if every capital sigma has the same form in both. -/
theorem lowerBetween_eq_iff {s : List Char} :
    lowerBetween before after s = lowerBetween before' after' s ↔
      ∀ x y, s = x ++ 'Σ' :: y →
        isFinalSigma (x.reverse ++ before) (y ++ after) = isFinalSigma (x.reverse ++ before') (y ++ after') := by
  induction s generalizing before before' with
  | nil => simp [lowerBetween]
  | cons c rest ih =>
    -- a character becomes as many characters in one place as in the other, so both lists are split alike
    have hsplit : lowerBetween before after (c :: rest) = lowerBetween before' after' (c :: rest) ↔
        lowerAt before (rest ++ after) c = lowerAt before' (rest ++ after') c ∧
          lowerBetween (c :: before) after rest = lowerBetween (c :: before') after' rest :=
      ⟨fun h => List.append_inj h (length_lowerAt _ _ _ _ c), fun ⟨hc, hrest⟩ => congrArg₂ _ hc hrest⟩
    rw [hsplit, lowerAt_eq_iff, ih]
    constructor
    · rintro ⟨hc, hrest⟩ x y h
      cases x with
      | nil =>
        obtain ⟨rfl, rfl⟩ := List.cons.inj h
        exact hc rfl
      | cons d x =>
        obtain ⟨rfl, rfl⟩ := List.cons.inj h
        simpa using hrest x y rfl
    · intro h
      refine ⟨fun hc => h [] rest (by rw [hc]; rfl), fun x y hrest => ?_⟩
      simpa using h (c :: x) y (by rw [hrest]; rfl)

/-- Every capital sigma of `s` has the same form in `u ++ s ++ v` as in `s` alone: it ends a word in both, or in
none of them. -/
def KeepsSigmas (u s v : List Char) : Prop :=
  ∀ x y, s = x ++ 'Σ' :: y →
    isFinalSigma (x.reverse ++ u.reverse) (y ++ v) = isFinalSigma x.reverse y

variable {u s v : List Char}

theorem lowerBetween_eq_lowerChars_iff : lowerBetween u.reverse v s = lowerChars s ↔ KeepsSigmas u s v := by
  rw [lowerChars_eq_lowerBetween, lowerBetween_eq_iff]
  simp only [List.append_nil]
  rfl

/-! ### Sigmas that are kept -/

/-- What comes after a character that is not looked through does not matter. -/
theorem startsCased_append {s t : List Char} (h : ∃ c ∈ s, isCaseIgnorable c = false) :
    startsCased (s ++ t) = startsCased s := by
  obtain ⟨c, hc, hseen⟩ := h
  have hne : s.dropWhile isCaseIgnorable ≠ [] := by
    intro hnil
    have hall := List.dropWhile_eq_nil_iff.mp hnil c hc
    rw [hseen] at hall
    cases hall
  rw [startsCased, startsCased, List.dropWhile_append, if_neg (by simpa using hne)]
  cases hs : s.dropWhile isCaseIgnorable with
  | nil => exact absurd hs hne
  | cons d rest => rfl

/-- A capital sigma is kept if characters that are not looked through stand on both sides of it. -/
theorem KeepsSigmas.of_inner
    (h : ∀ x y, s = x ++ 'Σ' :: y →
      (∃ c ∈ x, isCaseIgnorable c = false) ∧ ∃ c ∈ y, isCaseIgnorable c = false) : KeepsSigmas u s v := by
  intro x y hs
  obtain ⟨⟨c, hc, hseen⟩, hy⟩ := h x y hs
  rw [isFinalSigma, isFinalSigma, startsCased_append hy,
    startsCased_append ⟨c, List.mem_reverse.mpr hc, hseen⟩]

/-- A sigma that changes its form has nothing on one side in the part but what is looked through. -/
theorem exists_edge_of_not_keepsSigmas (h : ¬KeepsSigmas u s v) :
    ∃ x y, s = x ++ 'Σ' :: y ∧ ((∀ c ∈ x, isCaseIgnorable c = true) ∨ ∀ c ∈ y, isCaseIgnorable c = true) := by
  by_contra hno
  refine h (.of_inner fun x y hs => ?_)
  have hedge := fun hor => hno ⟨x, y, hs, hor⟩
  simpa using hedge

theorem KeepsSigmas.alone : KeepsSigmas [] s [] := by
  intro x y _
  rw [List.reverse_nil, List.append_nil, List.append_nil]

/-! ### Parts -/

theorem lowerChars_append_append (u s v : List Char) :
    lowerChars (u ++ s ++ v) = lowerBetween [] (s ++ v) u ++ lowerBetween u.reverse v s ++
      lowerBetween (s.reverse ++ u.reverse) [] v := by
  simp [lowerChars_eq_lowerBetween, lowerBetween_append]

theorem lowerChars_infix (h : KeepsSigmas u s v) : lowerChars s <:+: lowerChars (u ++ s ++ v) := by
  rw [lowerChars_append_append, lowerBetween_eq_lowerChars_iff.mpr h]
  exact List.infix_append _ _ _

theorem lowerChars_prefix_iff : lowerChars s <+: lowerChars (s ++ v) ↔ KeepsSigmas [] s v := by
  have hlower : lowerChars (s ++ v) = lowerBetween [] v s ++ lowerBetween s.reverse [] v := by
    simp [lowerChars_eq_lowerBetween, lowerBetween_append]
  have hlength : (lowerChars s).length = (lowerBetween [] v s).length := by
    rw [lowerChars_eq_lowerBetween, length_lowerBetween]
  rw [hlower, ← lowerBetween_eq_lowerChars_iff]
  constructor
  · intro h
    have hbegins := List.prefix_of_prefix_length_le h (List.prefix_append _ _) hlength.le
    exact (hbegins.eq_of_length hlength).symm
  · intro h
    rw [← h]
    exact List.prefix_append _ _

theorem lowerChars_suffix_iff : lowerChars s <:+ lowerChars (u ++ s) ↔ KeepsSigmas u s [] := by
  have hlower : lowerChars (u ++ s) = lowerBetween [] s u ++ lowerBetween u.reverse [] s := by
    simp [lowerChars_eq_lowerBetween, lowerBetween_append]
  have hlength : (lowerChars s).length = (lowerBetween u.reverse [] s).length := by
    rw [lowerChars_eq_lowerBetween, length_lowerBetween]
  rw [hlower, ← lowerBetween_eq_lowerChars_iff]
  constructor
  · intro h
    have hends := List.suffix_of_suffix_length_le h (List.suffix_append _ _) hlength.le
    exact (hends.eq_of_length hlength).symm
  · intro h
    rw [h]
    exact List.suffix_append _ _

end EntityQuery.Text

import EntityQuery.Proofs.Value.Exactness
import Mathlib.Logic.Relation

/-!
# Values as sets

Equality of values is symmetric and transitive, and a value equals itself unless it is null or a list
(`Value.looseEq_self_iff`). So the tests for common and for equal members are tests of sets, in which equal
members count as one: they forget how the members are listed (`Value.Rearranged.tests_eq`), and equal sets
overlap the same sets (`Value.overlaps_congr`). A set that has null or a list among its members is not even
equal to itself (`Value.setEquals_self_iff`).

What the tests look at is only which values have an equal among the members (`Value.Has`), and that depends on
the members up to equality (`Value.Within.has`). One change to a listing keeps the members up to equality, and
so do any number of changes (`Value.Relists.sameMembers`, `Value.Rearranged.sameMembers`).
-/

namespace EntityQuery.Value

variable {a b c x y z : Value} {l l' l'' : List Value}

/-! ### Equality -/

theorem looseEq_trans (hxy : x.looseEq y = true) (hyz : y.looseEq z = true) : x.looseEq z = true :=
  looseEq_iff.mpr (compare?_trans (looseEq_iff.mp hxy) (looseEq_iff.mp hyz) rfl rfl)

/-- A value equals itself unless it is null or a list. -/
theorem looseEq_self_iff : x.looseEq x = true ↔ x ≠ .null ∧ ∀ items, x ≠ .list items := by
  have hcomparable : x.Comparable x ↔ x ≠ .null ∧ ∀ items, x ≠ .list items :=
    ⟨fun h => h.1, fun h => ⟨h, h, .inl rfl⟩⟩
  rw [looseEq_iff, compare?_eq_some_iff, hcomparable]
  exact and_iff_left Std.ReflCmp.compare_self

/-! ### Members up to equality -/

/-- Some value of the list equals `y`. -/
def Has (l : List Value) (y : Value) : Prop := ∃ x ∈ l, x.looseEq y = true

/-- Each value of the one list is in the other, or equals a value there. -/
def Within (l l' : List Value) : Prop := ∀ x ∈ l, x ∈ l' ∨ Has l' x

theorem Has.congr (h : Has l y) (hyz : y.looseEq z = true) : Has l z := by
  obtain ⟨x, hx, hxy⟩ := h
  exact ⟨x, hx, looseEq_trans hxy hyz⟩

theorem Within.refl (l : List Value) : Within l l := fun _ hx => .inl hx

/-- What the one list has, the other has too. -/
theorem Within.has (h : Within l l') (hy : Has l y) : Has l' y := by
  obtain ⟨x, hx, hxy⟩ := hy
  rcases h x hx with hx' | hx'
  · exact ⟨x, hx', hxy⟩
  · exact hx'.congr hxy

theorem Within.trans (h : Within l l') (h' : Within l' l'') : Within l l'' := by
  intro x hx
  rcases h x hx with hx' | hx'
  · exact h' x hx'
  · exact .inr (h'.has hx')

/-- Each of two lists has what the other has. -/
def SameMembers (l l' : List Value) : Prop := Within l l' ∧ Within l' l

theorem SameMembers.symm (h : SameMembers l l') : SameMembers l' l := ⟨h.2, h.1⟩

theorem SameMembers.trans (h : SameMembers l l') (h' : SameMembers l' l'') : SameMembers l l'' :=
  ⟨h.1.trans h'.1, h'.2.trans h.2⟩

/-! ### The tests -/

theorem overlaps_iff_has : a.overlaps b = true ↔ ∃ y ∈ b.members, Has a.members y := by
  simp only [overlaps, Has, List.any_eq_true]
  constructor
  · rintro ⟨x, hx, y, hy, hxy⟩
    exact ⟨y, hy, x, hx, hxy⟩
  · rintro ⟨y, hy, x, hx, hxy⟩
    exact ⟨x, hx, y, hy, hxy⟩

theorem covers_iff_has : a.covers b = true ↔ ∀ y ∈ b.members, Has a.members y := by
  simp only [covers, Has, List.all_eq_true, List.any_eq_true]

theorem setEquals_iff_covers : a.setEquals b = true ↔ a.covers b = true ∧ b.covers a = true :=
  Bool.and_eq_true_iff

/-- A set that covers another one has a value for each member of it, and so for each that a member equals. -/
theorem has_of_covers (h : a.covers b = true) (hy : Has b.members y) : Has a.members y := by
  obtain ⟨x, hx, hxy⟩ := hy
  exact (covers_iff_has.mp h x hx).congr hxy

theorem within_of_covers (h : a.covers b = true) : Within b.members a.members :=
  fun x hx => .inr (covers_iff_has.mp h x hx)

theorem covers_trans (hab : a.covers b = true) (hbc : b.covers c = true) : a.covers c = true :=
  covers_iff_has.mpr fun z hz => has_of_covers hab (covers_iff_has.mp hbc z hz)

theorem setEquals_trans (hab : a.setEquals b = true) (hbc : b.setEquals c = true) : a.setEquals c = true := by
  obtain ⟨hab, hba⟩ := setEquals_iff_covers.mp hab
  obtain ⟨hbc, hcb⟩ := setEquals_iff_covers.mp hbc
  exact setEquals_iff_covers.mpr ⟨covers_trans hab hbc, covers_trans hcb hba⟩

theorem setEquals_comm (a b : Value) : a.setEquals b = b.setEquals a := Bool.and_comm ..

theorem overlaps_comm (a b : Value) : a.overlaps b = b.overlaps a := by
  rw [Bool.eq_iff_iff, overlaps_iff_has, overlaps_iff_has]
  constructor
  · rintro ⟨y, hy, x, hx, hxy⟩
    exact ⟨x, hx, y, hy, by rwa [looseEq_comm]⟩
  · rintro ⟨y, hy, x, hx, hxy⟩
    exact ⟨x, hx, y, hy, by rwa [looseEq_comm]⟩

/-- A set equals itself unless null or a list is a member. -/
theorem setEquals_self_iff :
    a.setEquals a = true ↔ ∀ x ∈ a.members, x ≠ .null ∧ ∀ items, x ≠ .list items := by
  rw [setEquals_iff_covers, and_self, covers_iff_has]
  refine forall₂_congr fun x hx => ?_
  rw [← looseEq_self_iff]
  constructor
  · -- what equals anything equals itself
    rintro ⟨y, -, hyx⟩
    exact looseEq_trans (by rwa [looseEq_comm]) hyx
  · exact fun hxx => ⟨x, hx, hxx⟩

/-! ### Other members -/

/-- A set overlaps what another set overlaps, if it has the members of that set. -/
theorem Within.overlaps (h : Within a.members b.members) (hc : a.overlaps c = true) : b.overlaps c = true := by
  obtain ⟨y, hy, hhas⟩ := overlaps_iff_has.mp hc
  exact overlaps_iff_has.mpr ⟨y, hy, h.has hhas⟩

theorem SameMembers.overlaps_eq (h : SameMembers a.members b.members) (c : Value) :
    a.overlaps c = b.overlaps c := by
  rw [Bool.eq_iff_iff]
  exact ⟨h.1.overlaps, h.2.overlaps⟩

/-- To cover a set takes what it takes to cover another one with the same members. -/
theorem SameMembers.covers (h : SameMembers a.members b.members) (ha : c.covers a = true) :
    c.covers b = true := by
  refine covers_iff_has.mpr fun y hy => ?_
  rcases h.2 y hy with hy' | hy'
  · exact covers_iff_has.mp ha y hy'
  · exact has_of_covers ha hy'

theorem SameMembers.setEquals (h : SameMembers a.members b.members) (ha : a.setEquals c = true) :
    b.setEquals c = true := by
  obtain ⟨hac, hca⟩ := setEquals_iff_covers.mp ha
  refine setEquals_iff_covers.mpr ⟨covers_iff_has.mpr fun z hz => ?_, h.covers hca⟩
  exact h.1.has (covers_iff_has.mp hac z hz)

theorem SameMembers.setEquals_eq (h : SameMembers a.members b.members) (c : Value) :
    a.setEquals c = b.setEquals c := by
  rw [Bool.eq_iff_iff]
  exact ⟨h.setEquals, h.symm.setEquals⟩

/-- Equal sets overlap the same sets. -/
theorem overlaps_congr (h : a.setEquals b = true) (c : Value) : a.overlaps c = b.overlaps c := by
  obtain ⟨hab, hba⟩ := setEquals_iff_covers.mp h
  exact SameMembers.overlaps_eq ⟨within_of_covers hba, within_of_covers hab⟩ c

/-! ### Other listings -/

/-- One change to how members are listed: their order, a member listed once more, or another value that the
member equals. -/
inductive Relists : List Value → List Value → Prop where
  | reorder {before after : List Value} (h : before.Perm after) : Relists before after
  | repeated {member : Value} {items : List Value} (h : member ∈ items) : Relists items (member :: items)
  | replace {member other : Value} (before after : List Value) (h : member.looseEq other = true) :
    Relists (before ++ member :: after) (before ++ other :: after)

/-- Any changes to how members are listed, or back. -/
def Rearranged : List Value → List Value → Prop := Relation.EqvGen Relists

theorem within_replace (before after : List Value) (h : x.looseEq y = true) :
    Within (before ++ x :: after) (before ++ y :: after) := by
  intro z hz
  rcases List.mem_append.mp hz with hz | hz
  · exact .inl (List.mem_append_left _ hz)
  rcases List.mem_cons.mp hz with rfl | hz
  · exact .inr ⟨y, List.mem_append_right _ List.mem_cons_self, by rwa [looseEq_comm]⟩
  · exact .inl (List.mem_append_right _ (List.mem_cons_of_mem _ hz))

theorem Relists.sameMembers (h : Relists l l') : SameMembers l l' := by
  cases h with
  | reorder h => exact ⟨fun x hx => .inl (h.mem_iff.mp hx), fun x hx => .inl (h.mem_iff.mpr hx)⟩
  | repeated h =>
    refine ⟨fun y hy => .inl (List.mem_cons_of_mem _ hy), fun y hy => .inl ?_⟩
    rcases List.mem_cons.mp hy with rfl | hy
    · exact h
    · exact hy
  | replace before after h =>
    exact ⟨within_replace before after h, within_replace before after (by rwa [looseEq_comm])⟩

theorem Rearranged.sameMembers (h : Rearranged l l') : SameMembers l l' := by
  induction h with
  | rel _ _ h => exact h.sameMembers
  | refl l => exact ⟨.refl l, .refl l⟩
  | symm _ _ _ ih => exact ih.symm
  | trans _ _ _ _ _ ih ih' => exact ih.trans ih'

/-- Both tests do not depend on how the members of either side are listed. -/
theorem Rearranged.tests_eq {a' b' : Value} (ha : Rearranged a.members a'.members)
    (hb : Rearranged b.members b'.members) :
    a.overlaps b = a'.overlaps b' ∧ a.setEquals b = a'.setEquals b' := by
  constructor
  · rw [ha.sameMembers.overlaps_eq, overlaps_comm, hb.sameMembers.overlaps_eq, overlaps_comm]
  · rw [ha.sameMembers.setEquals_eq, setEquals_comm, hb.sameMembers.setEquals_eq, setEquals_comm]

/-! ### Laws -/

/-- The test for common members and the one for equal members are tests of sets. Neither depends on the side, and
equality of sets is transitive; both do not depend on the order of members, on how often a member is listed, or
on which of several equal values stands for it. A set equals itself unless null or a list is a member, and equal
sets overlap the same sets. -/
theorem setTests_extensional (a b c : Value) :
    a.overlaps b = b.overlaps a ∧ a.setEquals b = b.setEquals a ∧
      (a.setEquals b = true → b.setEquals c = true → a.setEquals c = true) ∧
      (∀ a' b' : Value, Rearranged a.members a'.members → Rearranged b.members b'.members →
        a.overlaps b = a'.overlaps b' ∧ a.setEquals b = a'.setEquals b') ∧
      (a.setEquals a = true ↔ ∀ x ∈ a.members, x ≠ .null ∧ ∀ items, x ≠ .list items) ∧
      (a.setEquals b = true → a.overlaps c = b.overlaps c) :=
  ⟨overlaps_comm a b, setEquals_comm a b, setEquals_trans, fun _ _ ha hb => ha.tests_eq hb,
    setEquals_self_iff, fun h => overlaps_congr h c⟩

/-- Two and a text are the same set if the two is listed once more, as a decimal, and in another order. Either way the
set has two as a member, and not three. The set equals itself, and a set with null does not. -/
theorem setTests_extensional_two :
    let two := Value.int 2
    let decimal := Value.decimal ⟨false, 200, 2, by decide, by decide⟩
    let a := Value.list [two, .string "a"]
    let b := Value.list [.string "a", decimal, two]
    Rearranged a.members b.members ∧ a.setEquals a = true ∧ a.setEquals b = true ∧ b.setEquals a = true ∧
      (a.overlaps decimal = true ∧ b.overlaps decimal = true) ∧
      (a.overlaps (.int 3) = false ∧ b.overlaps (.int 3) = false) ∧
      (Value.list [two, .null]).setEquals (.list [two, .null]) = false := by
  intro two decimal a b
  have hlisted : Rearranged a.members b.members := by
    have hequal : two.looseEq decimal = true := by decide +kernel
    have hrepeat : Relists a.members [two, two, .string "a"] := .repeated List.mem_cons_self
    have hreplace : Relists [two, two, .string "a"] [decimal, two, .string "a"] := .replace [] _ hequal
    have hreorder : Relists [decimal, two, .string "a"] b.members :=
      .reorder (@List.perm_append_comm _ [decimal, two] [.string "a"])
    exact .trans _ _ _ (.rel _ _ hrepeat) (.trans _ _ _ (.rel _ _ hreplace) (.rel _ _ hreorder))
  obtain ⟨-, -, -, htests, hself, -⟩ := setTests_extensional a a decimal
  obtain ⟨-, hcomm, -, -, -, htwo⟩ := setTests_extensional a b decimal
  obtain ⟨-, -, -, -, -, hthree⟩ := setTests_extensional a b (.int 3)
  have haa : a.setEquals a = true := hself.mpr (by simp [a, two])
  have hab : a.setEquals b = true := (htests a b (.refl _) hlisted).2 ▸ haa
  have hnull : (Value.list [two, .null]).setEquals (.list [two, .null]) = false := by
    obtain ⟨-, -, -, -, hself, -⟩ := setTests_extensional (.list [two, .null]) b decimal
    refine Bool.eq_false_iff.mpr fun h => ?_
    exact (hself.mp h .null (List.mem_cons_of_mem _ List.mem_cons_self)).1 rfl
  have hmember : a.overlaps decimal = true := by decide +kernel
  have hother : a.overlaps (.int 3) = false := by decide +kernel
  exact ⟨hlisted, haa, hab, hcomm ▸ hab, ⟨hmember, htwo hab ▸ hmember⟩, ⟨hother, hthree hab ▸ hother⟩, hnull⟩

end EntityQuery.Value

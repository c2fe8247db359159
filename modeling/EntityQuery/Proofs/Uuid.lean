import EntityQuery.Uuid
import EntityQuery.Proofs.Timestamp.Reading

/-!
# Identifiers are read as they are written

The hyphens are found where they were put, whatever the sizes of the groups (`Uuid.unhyphenate?_hyphenate`), and an
identifier is as long as no row of digits alone is, so it is read back (`Uuid.ofChars?_toChars`). It is not taken for a
timestamp, because its first group has more digits than a year (`Uuid.ofRelaxed?_toChars`).
-/

namespace EntityQuery.Uuid

open Text (hexDigits)

/-! ### Groups -/

theorem hyphenate_cons_cons (n m : Nat) (ns : List Nat) (s : List Char) :
    hyphenate (n :: m :: ns) s = s.take n ++ '-' :: hyphenate (m :: ns) (s.drop n) := rfl

theorem unhyphenate?_cons_cons {n : Nat} (m : Nat) (ns : List Nat) {s rest : List Char} (h : s.length = n) :
    unhyphenate? (n :: m :: ns) (s ++ '-' :: rest) = (unhyphenate? (m :: ns) rest).map (s ++ ·) := by
  simp [unhyphenate?, ← h]

/-- A text that is cut into groups is put together again. -/
theorem unhyphenate?_hyphenate {ns : List Nat} {s : List Char} (hne : ns ≠ []) (hlength : s.length = ns.sum) :
    unhyphenate? ns (hyphenate ns s) = some s := by
  induction ns generalizing s with
  | nil => exact absurd rfl hne
  | cons n ns ih =>
    cases ns with
    | nil =>
      have hn : s.length = n := by simpa using hlength
      simp [hyphenate, unhyphenate?, hn, List.take_of_length_le]
    | cons m ns =>
      rw [List.sum_cons] at hlength
      have htake : (s.take n).length = n := List.length_take_of_le (by omega)
      have hrest := ih (s := s.drop n) (List.cons_ne_nil _ _) (by rw [List.length_drop]; omega)
      rw [hyphenate_cons_cons, unhyphenate?_cons_cons m ns htake, hrest, Option.map_some, List.take_append_drop]

/-- Every group but the first has a hyphen in front. -/
theorem length_hyphenate {ns : List Nat} {s : List Char} (hne : ns ≠ []) (hlength : s.length = ns.sum) :
    (hyphenate ns s).length + 1 = ns.sum + ns.length := by
  induction ns generalizing s with
  | nil => exact absurd rfl hne
  | cons n ns ih =>
    cases ns with
    | nil =>
      have hn : s.length = n := by simpa using hlength
      simp [hyphenate, hn]
    | cons m ns =>
      rw [List.sum_cons] at hlength
      have htake : (s.take n).length = n := List.length_take_of_le (by omega)
      have hrest := ih (s := s.drop n) (List.cons_ne_nil _ _) (by rw [List.length_drop]; omega)
      rw [hyphenate_cons_cons, List.length_append, htake, List.length_cons, List.sum_cons (a := n), List.length_cons]
      omega

/-! ### Hexadecimal digits -/

theorem exists_digitChar_of_mem_hexDigits {n k : Nat} {c : Char} (h : c ∈ hexDigits n k) :
    ∃ d < 16, c = Nat.digitChar d := by
  induction n generalizing k with
  | zero => cases h
  | succ n ih =>
    rw [hexDigits, List.mem_append, List.mem_singleton] at h
    rcases h with h | rfl
    · exact ih h
    · exact ⟨k % 16, Nat.mod_lt k (by decide), rfl⟩

/-- A hexadecimal digit is no blank, no sign and no brace, and no letter of a name. -/
theorem digitChar_ne {d : Nat} (h : d < 16) :
    (Text.isBlank (Nat.digitChar d) = false ∧ Nat.digitChar d ≠ '-' ∧ Nat.digitChar d ≠ '+') ∧
      Nat.digitChar d ≠ '\x7b' ∧ (Nat.digitChar d).toLower ≠ 'u' := by
  have hall : ∀ k : Fin 16, (Text.isBlank (Nat.digitChar k) = false ∧ Nat.digitChar k ≠ '-' ∧ Nat.digitChar k ≠ '+') ∧
      Nat.digitChar k ≠ '\x7b' ∧ (Nat.digitChar k).toLower ≠ 'u' := by decide
  exact hall ⟨d, h⟩

/-! ### Identifiers -/

variable (u : Uuid)

/-- An identifier starts with eight digits. -/
theorem exists_toChars_eq :
    ∃ ds rest, u.toChars = ds ++ rest ∧ ds.length = 8 ∧ ∀ c ∈ ds, ∃ d < 16, c = Nat.digitChar d := by
  refine ⟨(hexDigits 32 u.bits.toNat).take 8, _, hyphenate_cons_cons 8 4 [4, 4, 12] _, by simp, ?_⟩
  intro c hc
  exact exists_digitChar_of_mem_hexDigits ( List.mem_of_mem_take hc)

theorem length_toChars : u.toChars.length = 36 := by
  have hlength := length_hyphenate (by decide : groups ≠ []) (Text.length_hexDigits 32 u.bits.toNat)
  have hsizes : groups.sum + groups.length = 37 := rfl
  rw [toChars]
  omega

theorem ofHyphenated?_toChars : ofHyphenated? u.toChars = some u := by
  have hgroups : unhyphenate? groups u.toChars = some (hexDigits 32 u.bits.toNat) :=
    unhyphenate?_hyphenate (by decide) (Text.length_hexDigits 32 u.bits.toNat)
  have hdigits : Text.hexNumber? (hexDigits 32 u.bits.toNat) = some u.bits.toNat :=
    Text.hexNumber?_hexDigits (Nat.lt_of_lt_of_eq u.bits.isLt (by decide))
  simp [ofHyphenated?, hgroups, ofSimple?, hdigits]

/-- An identifier is read as it is written. -/
theorem ofChars?_toChars : ofChars? u.toChars = some u := by
  have hread := u.ofHyphenated?_toChars
  have hlength := u.length_toChars
  obtain ⟨ds, rest, hchars, height, hdigits⟩ := u.exists_toChars_eq
  cases ds with
  | nil => cases height
  | cons c ds =>
    obtain ⟨d, hd, rfl⟩ := hdigits c (List.mem_cons_self ..)
    obtain ⟨-, hbrace, hletter⟩ := digitChar_ne hd
    rw [hchars] at hread hlength ⊢
    rw [List.cons_append] at hread hlength ⊢
    have hurn : ¬((Nat.digitChar d :: (ds ++ rest)).take urnStart.length).map Char.toLower = urnStart := by
      intro h
      have hhead := congrArg List.head? h
      have hstart : urnStart.head? = some 'u' := by decide
      have hnine : urnStart.length = 9 := by decide
      rw [hnine, List.take_succ_cons, List.map_cons, List.head?_cons, hstart] at hhead
      exact hletter (Option.some.inj hhead)
    rw [ofChars?.eq_def]
    simp only [hlength, hurn, if_false, hread]
    split
    · rename_i tail htail
      exact absurd (List.cons.inj htail).1 hbrace
    · rfl

/-- An identifier is no timestamp. -/
theorem ofRelaxed?_toChars : Timestamp.ofRelaxed? u.toChars = none := by
  obtain ⟨ds, rest, hchars, height, hdigits⟩ := u.exists_toChars_eq
  rw [hchars]
  refine Timestamp.ofRelaxed?_eq_none (by omega) ?_
  intro c hc
  obtain ⟨d, hd, rfl⟩ := hdigits c hc
  exact (digitChar_ne hd).1

end EntityQuery.Uuid

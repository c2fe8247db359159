import EntityQuery.Text.Digits
import EntityQuery.Text.Hexadecimal
import Mathlib.Algebra.Group.Nat.Defs
import Mathlib.Data.List.Induction
import Mathlib.Data.List.TakeWhile

/-!
# Numbers as they are written

A number is read back from its digits, with or without leading zeros (`Text.takeNumber?_padded`), if no digit
follows that could belong to it, or as many digits are there as are taken at most. The same holds of hexadecimal
digits, of which there is a fixed number (`Text.hexNumber?_hexDigits`).
-/

namespace EntityQuery.Text

/-! ### Digits -/

/-- The text does not go on with a digit. -/
def NoDigit (rest : List Char) : Prop := ∀ c ∈ rest.head?, c.isDigit = false

theorem noDigit_cons {c : Char} {rest : List Char} (h : c.isDigit = false) : NoDigit (c :: rest) := by
  simpa [NoDigit] using h

theorem takeWhile_isDigit {rest : List Char} (h : NoDigit rest) : rest.takeWhile Char.isDigit = [] := by
  cases rest with
  | nil => rfl
  | cons c rest => exact List.takeWhile_cons_of_neg (by simp [h c rfl])

theorem dropWhile_isDigit {rest : List Char} (h : NoDigit rest) : rest.dropWhile Char.isDigit = rest := by
  cases rest with
  | nil => rfl
  | cons c rest => exact List.dropWhile_cons_of_neg (by simp [h c rfl])

theorem isDigit_bounds {c : Char} (h : c.isDigit = true) : 48 ≤ c.toNat ∧ c.toNat ≤ 57 := by
  simp only [Char.isDigit, Bool.and_eq_true, decide_eq_true_eq, ge_iff_le, UInt32.le_iff_toNat_le] at h
  exact h

theorem digitValue_le {c : Char} (h : c.isDigit = true) : digitValue c ≤ 9 := by
  have hbounds := isDigit_bounds h
  have hzero : '0'.toNat = 48 := rfl
  rw [digitValue]
  omega

/-- Digits in front of others count for as many powers of ten. -/
theorem digitsValue_append (ds es : List Char) :
    digitsValue (ds ++ es) = digitsValue ds * 10 ^ es.length + digitsValue es := by
  induction es using List.reverseRecOn with
  | nil => simp [digitsValue]
  | append_singleton es e ih =>
    have hconcat : ∀ s : List Char, digitsValue (s ++ [e]) = digitsValue s * 10 + digitValue e := by
      simp [digitsValue]
    rw [← List.append_assoc, hconcat, hconcat, ih, List.length_append, List.length_singleton, Nat.pow_succ,
      Nat.add_mul, Nat.mul_assoc]
    omega

theorem digitsValue_lt {ds : List Char} (h : ∀ c ∈ ds, c.isDigit = true) : digitsValue ds < 10 ^ ds.length := by
  induction ds with
  | nil => simp [digitsValue]
  | cons c ds ih =>
    have hrest := ih fun d hd => h d (List.mem_cons_of_mem c hd)
    have hfirst := digitValue_le (h c (List.mem_cons_self ..))
    have hsingle : digitsValue [c] = digitValue c := by simp [digitsValue]
    have hmul : digitValue c * 10 ^ ds.length ≤ 9 * 10 ^ ds.length := Nat.mul_le_mul_right _ hfirst
    rw [← List.singleton_append, digitsValue_append, hsingle, List.length_append, List.length_singleton,
      Nat.pow_add, Nat.pow_one]
    omega

/-! ### Numbers -/

theorem isDigit_of_mem_toDigits {n : Nat} {c : Char} (h : c ∈ Nat.toDigits 10 n) : c.isDigit = true :=
  Nat.isDigit_of_mem_toDigits (by decide) (Nat.le_refl 10) h

/-- A number is read as it is written. -/
theorem digitsValue_toDigits (n : Nat) : digitsValue (Nat.toDigits 10 n) = n := by
  have h : ∀ ds, digitsValue ds = Nat.ofDigitChars 10 ds 0 := by
    intro ds
    simp only [digitsValue, Nat.ofDigitChars, digitValue, Nat.mul_comm]
  rw [h, Nat.ofDigitChars_ten_toDigits]

/-- No number but zero is written with a zero in front. -/
theorem length_toDigits_of_head? {n : Nat} (h : (Nat.toDigits 10 n).head? = some '0') :
    (Nat.toDigits 10 n).length = 1 := by
  obtain ⟨ds, hds⟩ : ∃ ds, Nat.toDigits 10 n = '0' :: ds := List.head?_eq_some_iff.mp h
  rcases Nat.eq_zero_or_pos ds.length with hlength | hlength
  · rw [hds, List.length_cons, hlength]
  · -- the digits behind a leading zero would be enough
    have hlt : digitsValue ds < 10 ^ ds.length :=
      digitsValue_lt fun c hc => isDigit_of_mem_toDigits (hds ▸ List.mem_cons_of_mem '0' hc)
    have hvalue : digitsValue ds = n := by
      rw [← digitsValue_toDigits n, hds, ← List.singleton_append, digitsValue_append]
      simp [digitsValue, digitValue]
    rw [hvalue] at hlt
    have hle := (Nat.length_toDigits_le_iff (by decide) hlength).mpr hlt
    rw [hds, List.length_cons] at hle
    omega

theorem isDigit_of_mem_padded {width n : Nat} {c : Char} (h : c ∈ padded width n) : c.isDigit = true := by
  rcases List.mem_append.mp h with h | h
  · rw [List.eq_of_mem_replicate h]
    rfl
  · exact isDigit_of_mem_toDigits h

theorem le_length_padded (width n : Nat) : width ≤ (padded width n).length := by
  rw [padded, List.length_append, List.length_replicate]
  omega

theorem length_padded {width n : Nat} (hpos : 0 < width) (h : n < 10 ^ width) : (padded width n).length = width := by
  have hle := (Nat.length_toDigits_le_iff (by decide) hpos).mpr h
  rw [padded, List.length_append, List.length_replicate]
  omega

theorem digitsValue_padded (width n : Nat) : digitsValue (padded width n) = n := by
  have hzeros : ∀ k, digitsValue (List.replicate k '0') = 0 := by
    intro k
    induction k with
    | zero => rfl
    | succ k ih =>
      rw [List.replicate_succ', digitsValue_append, ih]
      rfl
  rw [padded, digitsValue_append, hzeros, digitsValue_toDigits, Nat.zero_mul, Nat.zero_add]

theorem exists_padded_eq_cons {width : Nat} (hpos : 0 < width) (n : Nat) :
    ∃ c rest, padded width n = c :: rest ∧ c.isDigit = true := by
  cases h : padded width n with
  | nil =>
    have hle := le_length_padded width n
    rw [h, List.length_nil] at hle
    omega
  | cons c rest =>
    have hmem : c ∈ padded width n := by simp [h]
    exact ⟨c, rest, rfl, isDigit_of_mem_padded hmem⟩

/-! ### Taking digits -/

/-- Digits are taken as they are, if they are as many as are taken, and none could be taken in addition. -/
theorem takeDigits?_of_digits {least most : Nat} {ds rest : List Char} (h : ∀ c ∈ ds, c.isDigit = true)
    (hleast : least ≤ ds.length) (hmost : ds.length ≤ most) (hrest : ds.length = most ∨ NoDigit rest) :
    takeDigits? least most (ds ++ rest) = some (ds, rest) := by
  have htake : ((ds ++ rest).take most).takeWhile Char.isDigit = ds := by
    rw [List.take_append, List.take_of_length_le hmost, List.takeWhile_append_of_pos h]
    rcases hrest with hfull | hrest
    · simp [hfull]
    · have hempty : (rest.take (most - ds.length)).takeWhile Char.isDigit = [] := by
        refine takeWhile_isDigit ?_
        intro c hc
        rw [List.head?_take] at hc
        split at hc
        · cases hc
        · exact hrest c hc
      rw [hempty, List.append_nil]
  simp only [takeDigits?, htake, if_pos hleast]
  simp

theorem length_le_of_takeDigits? {least most : Nat} {s ds rest : List Char}
    (h : takeDigits? least most s = some (ds, rest)) : ds.length ≤ most := by
  dsimp only [takeDigits?] at h
  split at h
  · obtain ⟨rfl, rfl⟩ := Prod.mk.inj (Option.some.inj h)
    have htake : ((s.take most).takeWhile Char.isDigit).length ≤ (s.take most).length :=
      ( List.takeWhile_prefix _).length_le
    have hmost := List.length_take_le most s
    omega
  · cases h

/-- A number with leading zeros is read back. -/
theorem takeNumber?_padded {least most width n : Nat} {rest : List Char}
    (hleast : least ≤ (padded width n).length) (hmost : (padded width n).length ≤ most)
    (hrest : (padded width n).length = most ∨ NoDigit rest) :
    takeNumber? least most (padded width n ++ rest) = some (n, rest) := by
  rw [takeNumber?, takeDigits?_of_digits (fun _ => isDigit_of_mem_padded) hleast hmost hrest]
  simp [digitsValue_padded]

/-! ### Hexadecimal digits -/

theorem hexValue?_digitChar {n : Nat} (h : n < 16) : hexValue? (Nat.digitChar n) = some n := by
  have hall : ∀ k : Fin 16, hexValue? (Nat.digitChar k) = some k.val := by decide
  exact hall ⟨n, h⟩

/-- A number that fits is read back from its hexadecimal digits. -/
theorem hexNumber?_hexDigits {n k : Nat} (h : k < 16 ^ n) : hexNumber? (hexDigits n k) = some k := by
  induction n generalizing k with
  | zero =>
    have hzero : k = 0 := by simpa using h
    rw [hzero]
    rfl
  | succ n ih =>
    have hrest : k / 16 < 16 ^ n := Nat.div_lt_of_lt_mul (by rw [Nat.mul_comm, ← Nat.pow_succ]; exact h)
    have hread := ih hrest
    rw [hexNumber?, numberInBase?] at hread ⊢
    rw [hexDigits, List.foldlM_append, hread]
    simp only [List.foldlM_cons, List.foldlM_nil, hexValue?_digitChar (Nat.mod_lt k (by decide : 16 > 0)),
      Option.map_some, Option.bind_eq_bind, Option.bind_some, Option.pure_def]
    rw [Nat.mul_comm, Nat.div_add_mod]

end EntityQuery.Text

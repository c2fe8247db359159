import EntityQuery.Timestamp.Reader
import EntityQuery.Proofs.Text.Digits
import EntityQuery.Proofs.Timestamp.Calendar

/-!
# Timestamps are read as they are transmitted

The relaxed reader takes each part of a written timestamp and leaves what follows: a year of any length, since one of
more than four digits has a sign, two digits for each of the shorter parts, and a fraction that is scaled back to
nanoseconds. At the end of a minute a leap second is shown as second 60 and read as the second before it prolonged.
Within a minute it is shown as the second after it, so the two have one text, which is read as the latter
(`Timestamp.received`). Every other moment is read back, whatever its year (`Timestamp.ofRelaxed?_toWireText`,
`Timestamp.received_eq_self_iff`).
-/

namespace EntityQuery.Timestamp

open Text

/-! ### Blanks -/

theorem isBlank_of_isDigit {c : Char} (h : c.isDigit = true) : isBlank c = false := by
  have hbounds := isDigit_bounds h
  by_contra hblank
  obtain ⟨r, hr, hfirst, hlast⟩ := inRanges_iff.mp (Bool.eq_true_of_not_eq_false hblank)
  simp only [blankRanges, List.mem_cons, List.not_mem_nil, or_false] at hr
  rcases hr with rfl | rfl | rfl | rfl | rfl | rfl | rfl | rfl | rfl | rfl <;> simp only at hfirst hlast <;> omega

theorem trimStart_padded {width n : Nat} (hpos : 0 < width) (rest : List Char) :
    trimStart (padded width n ++ rest) = padded width n ++ rest := by
  obtain ⟨c, ds, hds, hdigit⟩ := exists_padded_eq_cons hpos n
  rw [hds, List.cons_append]
  exact trimStart_cons_of_not_blank (isBlank_of_isDigit hdigit)

/-! ### The date -/

variable {rest : List Char}

/-- A year is read to its last digit. -/
theorem readYear?_yearChars (y : Int) : readYear? (yearChars y ++ '-' :: rest) = some (y, '-' :: rest) := by
  by_cases hshort : 0 ≤ y ∧ y ≤ 9999
  · obtain ⟨c, ds, hds, hdigit⟩ := exists_padded_eq_cons (by decide : 0 < 4) y.toNat
    have hminus : c ≠ '-' := by rintro rfl; cases hdigit
    have hplus : c ≠ '+' := by rintro rfl; cases hdigit
    have hlength : (padded 4 y.toNat).length = 4 := length_padded (by decide) (by omega)
    have hread : takeNumber? 1 4 (padded 4 y.toNat ++ '-' :: rest) = some (y.toNat, '-' :: rest) :=
      takeNumber?_padded (by omega) (Nat.le_of_eq hlength) (.inl hlength)
    have hy : ((y.toNat : Nat) : Int) = y := Int.toNat_of_nonneg hshort.1
    rw [yearChars, if_pos hshort, readYear?, trimStart_padded (by decide)]
    rw [hds, List.cons_append] at hread ⊢
    simp [hminus, hplus, hread, hy]
  · -- behind a sign any number of digits is taken, so the hyphen ends the year
    have hle := le_length_padded 4 y.natAbs
    have hread : takeNumber? 1 (padded 4 y.natAbs ++ '-' :: rest).length (padded 4 y.natAbs ++ '-' :: rest) =
        some (y.natAbs, '-' :: rest) :=
      takeNumber?_padded (by omega) (by rw [List.length_append]; omega) (.inr (noDigit_cons rfl))
    rw [yearChars, if_neg hshort, readYear?]
    by_cases hneg : y < 0
    · have hy : -((y.natAbs : Nat) : Int) = y := by omega
      simp only [hneg, if_true, List.cons_append, trimStart_cons_of_not_blank (show isBlank '-' = false from rfl),
        hread, Option.map_some, hy]
    · have hy : ((y.natAbs : Nat) : Int) = y := by omega
      simp only [hneg, if_false, List.cons_append, trimStart_cons_of_not_blank (show isBlank '+' = false from rfl),
        hread, Option.map_some, hy]

/-- A part of two digits is read. -/
theorem readShort?_padded {n : Nat} (h : n < 100) : readShort? (padded 2 n ++ rest) = some (n, rest) := by
  have hlength : (padded 2 n).length = 2 := length_padded (by decide) h
  rw [readShort?, trimStart_padded (by decide)]
  exact takeNumber?_padded (by omega) (Nat.le_of_eq hlength) (.inl hlength)

theorem month_lt_of_isValid {d : Date} (h : d.isValid = true) : d.month < 100 := by
  simp only [Date.isValid, Bool.and_eq_true, decide_eq_true_eq] at h
  omega

theorem day_lt_of_isValid {d : Date} (h : d.isValid = true) : d.day < 100 := by
  have hlength : ∀ m, Date.monthLength d.year m ≤ 31 := by
    intro m
    rw [Date.monthLength.eq_def]
    split
    · split <;> omega
    all_goals omega
  have hmonth := hlength d.month
  simp only [Date.isValid, Bool.and_eq_true, decide_eq_true_eq] at h
  omega

/-- A date is read up to what follows its day. -/
theorem readDate?_chars {d : Date} (h : d.isValid = true) :
    readDate? true (yearChars d.year ++ '-' :: (padded 2 d.month ++ '-' :: (padded 2 d.day ++ rest))) =
      some (d, rest) := by
  simp [readDate?, readYear?_yearChars, trimStart_cons_of_not_blank (show isBlank '-' = false from rfl),
    readShort?_padded (month_lt_of_isValid h), readShort?_padded (day_lt_of_isValid h)]

/-! ### The time of day -/

/-- A fraction of at most nine digits counts in units of its last digit. -/
theorem readFraction?_padded (width n : Nat) (hpos : 0 < width) (hle : width ≤ 9) (h : n < 10 ^ width)
    (hrest : NoDigit rest) :
    readFraction? ('.' :: (padded width n ++ rest)) = some (n * Nat.pow 10 (9 - width), rest) := by
  have hlength : (padded width n).length = width := length_padded hpos h
  have htake : takeDigits? 1 9 (padded width n ++ rest) = some (padded width n, rest) :=
    takeDigits?_of_digits (fun _ => isDigit_of_mem_padded) (by omega) (by omega) (.inr hrest)
  simp [readFraction?, htake, digitsValue_padded, hlength, dropWhile_isDigit hrest]

/-- A fraction of a second is read in nanoseconds, however many digits it is written with. -/
theorem readFraction?_fractionChars {nanos : Nat} (h : nanos < secondNanos) (hrest : NoDigit rest)
    (hdot : ∀ c ∈ rest.head?, c ≠ '.') : readFraction? (fractionChars nanos ++ rest) = some (nanos, rest) := by
  have hbound : nanos < 1000000000 := h
  rw [fractionChars]
  by_cases hzero : nanos = 0
  · subst hzero
    cases rest with
    | nil => rfl
    | cons c rest =>
      have hc := hdot c rfl
      simp [readFraction?, hc]
  · by_cases hmilli : nanos % 1000000 = 0
    · have hread := readFraction?_padded 3 (nanos / 1000000) (by decide) (by decide) (by omega) hrest
      have hscale : nanos / 1000000 * Nat.pow 10 (9 - 3) = nanos := Nat.div_mul_cancel (Nat.dvd_of_mod_eq_zero hmilli)
      rw [if_neg hzero, if_pos hmilli, List.cons_append, hread, hscale]
    · by_cases hmicro : nanos % 1000 = 0
      · have hread := readFraction?_padded 6 (nanos / 1000) (by decide) (by decide) (by omega) hrest
        have hscale : nanos / 1000 * Nat.pow 10 (9 - 6) = nanos := Nat.div_mul_cancel (Nat.dvd_of_mod_eq_zero hmicro)
        rw [if_neg hzero, if_neg hmilli, if_pos hmicro, List.cons_append, hread, hscale]
      · have hread := readFraction?_padded 9 nanos (by decide) (by decide) (by omega) hrest
        have hscale : nanos * Nat.pow 10 (9 - 9) = nanos := Nat.mul_one nanos
        rw [if_neg hzero, if_neg hmilli, if_neg hmicro, List.cons_append, hread, hscale]

/-- What a clock of universal time shows at a moment. -/
def toLocal (t : Timestamp) : Local where
  date := Date.ofDays t.days
  hour := t.seconds / 3600
  minute := t.seconds / 60 % 60
  second := t.seconds % 60 + if secondNanos ≤ t.nanos then 1 else 0
  nanos := t.nanos % secondNanos
  offsetMinutes := 0

theorem isValid_toLocal (t : Timestamp) : t.toLocal.date.isValid = true := Date.isValid_ofDays t.days_ge t.days_le

/-- The fields that a clock shows are in their ranges, the second up to 60. -/
theorem toLocal_bounds (t : Timestamp) :
    t.toLocal.hour < 24 ∧ t.toLocal.minute < 60 ∧ t.toLocal.second ≤ 60 ∧ t.toLocal.nanos < secondNanos := by
  have hseconds : t.seconds < 86400 := t.seconds_lt
  refine ⟨?_, ?_, ?_, Nat.mod_lt _ (by decide)⟩
  · show t.seconds / 3600 < 24
    omega
  · show t.seconds / 60 % 60 < 60
    omega
  · show t.seconds % 60 + (if secondNanos ≤ t.nanos then 1 else 0) ≤ 60
    split <;> omega

/-- The moment is in a leap second only if that second ends a minute. -/
def LeapEndsMinute (t : Timestamp) : Prop := secondNanos ≤ t.nanos → t.seconds % 60 = 59

instance : DecidablePred LeapEndsMinute := fun t =>
  inferInstanceAs (Decidable (secondNanos ≤ t.nanos → t.seconds % 60 = 59))

variable {t : Timestamp}

/-- If its leap second ends a minute, a moment is the one at which a clock shows what it shows then. -/
theorem ofLocal?_toLocal (h : t.LeapEndsMinute) : ofLocal? t.toLocal = some t := by
  have hbounds := t.toLocal_bounds
  have hseconds : t.seconds < 86400 := t.seconds_lt
  have hnanos : t.nanos < 2000000000 := t.nanos_lt
  -- a second that is shown as 60 is a leap second, since the others end at 59
  have hsecond : (if t.toLocal.second = 60 then (59, t.toLocal.nanos + secondNanos)
      else (t.toLocal.second, t.toLocal.nanos)) = (t.seconds % 60, t.nanos) := by
    by_cases hleap : secondNanos ≤ t.nanos
    · have hlast := h hleap
      have hle : 1000000000 ≤ t.nanos := hleap
      have hsplit : t.nanos % 1000000000 + 1000000000 = t.nanos := by omega
      simp [toLocal, hleap, hlast]
      exact hsplit
    · have hlt : t.nanos < secondNanos := Nat.lt_of_not_le hleap
      have hne : t.seconds % 60 ≠ 60 := by omega
      simp [toLocal, hleap, hne, Nat.mod_eq_of_lt hlt]
  have htotal : t.toLocal.hour * 3600 + t.toLocal.minute * 60 + t.seconds % 60 = t.seconds := by
    show t.seconds / 3600 * 3600 + t.seconds / 60 % 60 * 60 + t.seconds % 60 = t.seconds
    omega
  have hdiv : ((t.seconds : Nat) : Int) / (daySeconds : Nat) = 0 := by
    rw [daySeconds]
    omega
  have hmod : (((t.seconds : Nat) : Int) % (daySeconds : Nat)).toNat = t.seconds := by
    rw [daySeconds]
    omega
  have hoffset : t.toLocal.offsetMinutes = 0 := rfl
  have hdays : t.toLocal.date.toDays = t.days := Date.toDays_ofDays t.days
  rw [ofLocal?, if_pos ⟨t.isValid_toLocal, hbounds.1, hbounds.2.1, hbounds.2.2.1, hbounds.2.2.2⟩, hsecond]
  simp only [htotal, hoffset, Int.zero_mul, Int.sub_zero, hdiv, hmod, hdays, Int.add_zero]
  exact ofParts?_self t

theorem localChars_eq (t : Timestamp) :
    t.localChars = yearChars t.toLocal.date.year ++ '-' :: (padded 2 t.toLocal.date.month ++
      '-' :: (padded 2 t.toLocal.date.day ++ 'T' :: (padded 2 t.toLocal.hour ++ ':' :: (padded 2 t.toLocal.minute ++
      ':' :: (padded 2 t.toLocal.second ++ fractionChars t.toLocal.nanos))))) := by
  simp only [localChars, toLocal, List.append_assoc, List.cons_append]

/-! ### Leap seconds within a minute -/

/-- A leap second within a minute does not follow the last second of the day. -/
theorem succ_seconds_lt (h : ¬t.LeapEndsMinute) : t.seconds + 1 < daySeconds := by
  have hlt : t.seconds < 86400 := t.seconds_lt
  have hne : t.seconds % 60 ≠ 59 := fun hlast => h fun _ => hlast
  show t.seconds + 1 < 86400
  omega

/-- The moment that is read where `t` is written: a leap second within a minute is taken for the second after it. -/
def received (t : Timestamp) : Timestamp :=
  if h : t.LeapEndsMinute then t
  else ⟨t.days, t.seconds + 1, t.nanos - secondNanos, t.days_ge, t.days_le, succ_seconds_lt h,
    Nat.lt_of_le_of_lt (Nat.sub_le ..) t.nanos_lt⟩

theorem received_of_leapEndsMinute (h : t.LeapEndsMinute) : t.received = t := dif_pos h

theorem seconds_received (h : ¬t.LeapEndsMinute) : t.received.seconds = t.seconds + 1 := by rw [received, dif_neg h]

theorem nanos_received (h : ¬t.LeapEndsMinute) : t.received.nanos = t.nanos - secondNanos := by
  rw [received, dif_neg h]

theorem days_received (t : Timestamp) : t.received.days = t.days := by
  rw [received]
  split <;> rfl

theorem received_eq_self_iff : t.received = t ↔ t.LeapEndsMinute := by
  refine ⟨fun h => ?_, received_of_leapEndsMinute⟩
  by_contra hwithin
  have hseconds := seconds_received hwithin
  rw [h] at hseconds
  omega

/-- What is read is in a leap second only at the end of a minute. -/
theorem leapEndsMinute_received (t : Timestamp) : t.received.LeapEndsMinute := by
  by_cases h : t.LeapEndsMinute
  · rwa [received_of_leapEndsMinute h]
  · have hnanos : t.nanos < 2000000000 := t.nanos_lt
    intro hleap
    rw [nanos_received h] at hleap
    have hle : 1000000000 ≤ t.nanos - 1000000000 := hleap
    omega

/-- A clock shows the same at a moment and at the one that is read in its place. -/
theorem toLocal_received (t : Timestamp) : t.received.toLocal = t.toLocal := by
  by_cases h : t.LeapEndsMinute
  · rw [received_of_leapEndsMinute h]
  · obtain ⟨hleap, hne⟩ := Classical.not_imp.mp h
    have hsplit : t.nanos - secondNanos + secondNanos = t.nanos := Nat.sub_add_cancel hleap
    have hnanos : t.nanos - secondNanos < secondNanos := by
      have hlt : t.nanos < 2 * secondNanos := t.nanos_lt
      omega
    have hmod : (t.nanos - secondNanos) % secondNanos = t.nanos % secondNanos := by
      rw [← Nat.add_mod_right, hsplit]
    simp only [toLocal, seconds_received h, nanos_received h, days_received, hmod, if_pos hleap,
      if_neg (Nat.not_le_of_lt hnanos), Local.mk.injEq, true_and, and_true]
    -- the minute goes on, so only the second changes
    omega

theorem toWireText_received (t : Timestamp) : t.received.toWireText = t.toWireText := by
  rw [toWireText, toWireText, localChars_eq, localChars_eq, toLocal_received]

/-- If its leap second ends a minute, a moment is read as it is transmitted. -/
theorem ofRelaxed?_toWireText_of_leapEndsMinute (h : t.LeapEndsMinute) : ofRelaxed? t.toWireText.toList = some t := by
  obtain ⟨hhour, hminute, hsecond, hnanos⟩ := t.toLocal_bounds
  have hfraction : readFraction? (fractionChars t.toLocal.nanos ++ ['Z']) = some (t.toLocal.nanos, ['Z']) :=
    readFraction?_fractionChars hnanos (noDigit_cons rfl) (by simp)
  have hoffset : readRelaxedOffset? ['Z'] = some (0, []) := rfl
  rw [toWireText, String.toList_ofList, localChars_eq]
  simp only [ofRelaxed?, List.append_assoc, List.cons_append, readDate?_chars t.isValid_toLocal]
  simp [isDateTimeSeparator, readShort?_padded (Nat.lt_of_lt_of_le hhour (by decide : 24 ≤ 100)),
    readShort?_padded (Nat.lt_of_lt_of_le hminute (by decide : 60 ≤ 100)),
    readShort?_padded (Nat.lt_of_le_of_lt hsecond (by decide : 60 < 100)),
    trimStart_cons_of_not_blank (show isBlank ':' = false from rfl), hfraction, hoffset]
  exact ⟨rfl, ofLocal?_toLocal h⟩

/-- Every moment is read where it is transmitted, or, in a leap second within a minute, the second after it. -/
theorem ofRelaxed?_toWireText (t : Timestamp) : ofRelaxed? t.toWireText.toList = some t.received := by
  rw [← toWireText_received]
  exact ofRelaxed?_toWireText_of_leapEndsMinute t.leapEndsMinute_received

/-! ### Texts that are no timestamps -/

/-- The text starts with neither a blank nor a sign. -/
def StartsPlain (s : List Char) : Prop := ∃ c tail, s = c :: tail ∧ isBlank c = false ∧ c ≠ '-' ∧ c ≠ '+'

variable {s : List Char}

theorem startsPlain_append {ds : List Char} (hpos : 0 < ds.length)
    (h : ∀ c ∈ ds, isBlank c = false ∧ c ≠ '-' ∧ c ≠ '+') (rest : List Char) : StartsPlain (ds ++ rest) := by
  cases ds with
  | nil => cases hpos
  | cons c ds => exact ⟨c, ds ++ rest, rfl, h c (List.mem_cons_self ..)⟩

theorem StartsPlain.trimStart_eq (h : StartsPlain s) : trimStart s = s := by
  obtain ⟨c, tail, rfl, hblank, -⟩ := h
  exact trimStart_cons_of_not_blank hblank

/-- A year without a sign has at most four digits. -/
theorem StartsPlain.exists_of_readYear? (h : StartsPlain s) {year : Int} {left : List Char}
    (hread : readYear? s = some (year, left)) : ∃ digits : List Char, digits.length ≤ 4 ∧ digits ++ left = s := by
  have htrim := h.trimStart_eq
  obtain ⟨c, tail, rfl, -, hminus, hplus⟩ := h
  cases htake : takeDigits? 1 4 (c :: tail) with
  | none => simp [readYear?, htrim, hminus, hplus, takeNumber?, htake] at hread
  | some p =>
    obtain ⟨digits, rest⟩ := p
    have hrest : ((digitsValue digits : Nat) : Int) = year ∧ rest = left := by
      simpa [readYear?, htrim, hminus, hplus, takeNumber?, htake] using hread
    obtain ⟨-, rfl⟩ := hrest
    exact ⟨digits, length_le_of_takeDigits? htake, takeDigits?_append htake⟩

/-- A text is no timestamp if its first five characters are neither blanks nor signs, since a year without a sign has
at most four digits and a hyphen behind it. -/
theorem ofRelaxed?_eq_none {ds : List Char} (hlength : 4 < ds.length)
    (h : ∀ c ∈ ds, isBlank c = false ∧ c ≠ '-' ∧ c ≠ '+') : ofRelaxed? (ds ++ rest) = none := by
  rw [ofRelaxed?, readDate?]
  cases hyear : readYear? (ds ++ rest) with
  | none => rfl
  | some p =>
    obtain ⟨year, left⟩ := p
    obtain ⟨digits, hshort, happend⟩ := (startsPlain_append (by omega) h rest).exists_of_readYear? hyear
    have hleft : left = ds.drop digits.length ++ rest := by
      have hdrop := congrArg (List.drop digits.length) happend
      rwa [List.drop_left, List.drop_append_of_le_length (by omega)] at hdrop
    have hplain : StartsPlain left := by
      rw [hleft]
      exact startsPlain_append (by rw [List.length_drop]; omega) (fun c hc => h c ( List.mem_of_mem_drop hc)) rest
    have hgap := hplain.trimStart_eq
    obtain ⟨d, more, rfl, -, hhyphen, -⟩ := hplain
    simp [hgap, expect?, hhyphen]

end EntityQuery.Timestamp

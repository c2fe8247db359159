import EntityQuery.Json.Number
import EntityQuery.Json.Reader
import EntityQuery.Json.Writer
import EntityQuery.Proofs.Text.Digits
import Mathlib.Data.List.Forall2

/-!
# Documents as they are written

A text spells a document if reading gives the document and leaves whatever follows (`Json.Spells`). What follows is
the end of the text or a sign that ends an item, so that no number runs into it. Spelled items make up a spelled
array (`Json.Spells.array`), spelled entries an object (`Json.Spells.object`), whatever else has to do with how
they came to be written. Strings are spelled character by character, with escapes (`Json.readString?_quoted`), and
numbers by their digits (`Json.readNumber?_toChars`), among them the integers of 64 bits
(`Json.Number.integer?_ofInt`).

So every document is read as it is written (`Json.read?_toChars`), if it is one that can be written: its numbers
follow the grammar and its strings are texts (`Json.WellFormed`).
-/

namespace EntityQuery.Json

open Text (NoDigit)

/-! ### Blanks and ends -/

theorem skipSpaces_cons {c : Char} (h : isSpace c = false) (s : List Char) : skipSpaces (c :: s) = c :: s :=
  List.dropWhile_cons_of_neg (by simp [h])

theorem isSpace_of_isDigit {c : Char} (h : c.isDigit = true) : isSpace c = false := by
  rcases Bool.eq_false_or_eq_true (isSpace c) with hspace | hspace
  · simp only [isSpace, Bool.or_eq_true, beq_iff_eq] at hspace
    rcases hspace with ((rfl | rfl) | rfl) | rfl <;> revert h <;> decide
  · exact hspace

/-- What may follow a document: nothing, or a sign that ends an item. -/
def Ends (rest : List Char) : Prop := ∀ c ∈ rest.head?, c = ',' ∨ c = ']' ∨ c = '\x7d'

theorem ends_nil : Ends [] := nofun

theorem ends_comma (rest : List Char) : Ends (',' :: rest) := by simp [Ends]

theorem ends_bracket (rest : List Char) : Ends (']' :: rest) := by simp [Ends]

theorem ends_brace (rest : List Char) : Ends ('\x7d' :: rest) := by simp [Ends]

variable {rest : List Char}

theorem Ends.cases (h : Ends rest) :
    rest = [] ∨ ∃ c tail, rest = c :: tail ∧ (c = ',' ∨ c = ']' ∨ c = '\x7d') := by
  cases rest with
  | nil => exact .inl rfl
  | cons c tail => exact .inr ⟨c, tail, rfl, h c rfl⟩

theorem Ends.noDigit (h : Ends rest) : NoDigit rest := by
  intro c hc
  rcases h c hc with rfl | rfl | rfl <;> rfl

/-! ### Numbers -/

/-- The number follows the grammar: its whole part has digits and no zero in front, and an exponent has digits. -/
structure Number.WellFormed (n : Number) : Prop where
  whole_digits : ∀ c ∈ n.whole, c.isDigit = true
  whole_ne_nil : n.whole ≠ []
  leading_zero : n.whole.head? = some '0' → n.whole.length = 1
  fraction_digits : ∀ c ∈ n.fraction, c.isDigit = true
  exponent_digits : ∀ e ∈ n.exponent, ∀ c ∈ e.2, c.isDigit = true
  exponent_ne_nil : ∀ e ∈ n.exponent, e.2 ≠ []

theorem spanDigits_append {ds : List Char} (h : ∀ c ∈ ds, c.isDigit = true) (hrest : NoDigit rest) :
    spanDigits (ds ++ rest) = (ds, rest) := by
  rw [spanDigits, List.takeWhile_append_of_pos h, List.dropWhile_append_of_pos h, Text.takeWhile_isDigit hrest,
    Text.dropWhile_isDigit hrest, List.append_nil]

/-- The fraction of a number as it is written. -/
def fractionChars (ds : List Char) : List Char := if ds = [] then [] else '.' :: ds

/-- The exponent of a number as it is written. -/
def exponentChars : Option (Bool × List Char) → List Char
  | none => []
  | some (negative, ds) => 'e' :: (if negative then ['-'] else []) ++ ds

theorem Number.toChars_eq (n : Number) :
    n.toChars = (if n.negative then ['-'] else []) ++ (n.whole ++ (fractionChars n.fraction ++
      exponentChars n.exponent)) := by
  rw [toChars, fractionChars, List.append_assoc, List.append_assoc]
  rcases n.exponent with _ | ⟨negative, ds⟩ <;> rfl

theorem noDigit_exponentChars (e : Option (Bool × List Char)) (h : Ends rest) : NoDigit (exponentChars e ++ rest) := by
  rcases e with _ | ⟨negative, ds⟩
  · exact h.noDigit
  · exact Text.noDigit_cons rfl

theorem readExponent?_exponentChars {e : Option (Bool × List Char)} (h : ∀ p ∈ e, ∀ c ∈ p.2, c.isDigit = true)
    (hne : ∀ p ∈ e, p.2 ≠ []) (hrest : Ends rest) : readExponent? (exponentChars e ++ rest) = some (e, rest) := by
  rcases e with _ | ⟨negative, ds⟩
  · rw [exponentChars, List.nil_append]
    rcases hrest.cases with rfl | ⟨c, tail, rfl, rfl | rfl | rfl⟩ <;> rfl
  · have hspan := spanDigits_append (h _ rfl) hrest.noDigit
    have hne := hne _ rfl
    cases negative with
    | true => simp [exponentChars, readExponent?, hspan, hne]
    | false =>
      obtain ⟨c, tail, rfl⟩ := List.exists_cons_of_ne_nil hne
      have hdigit : c.isDigit = true := h _ rfl c (List.mem_cons_self ..)
      have hminus : c ≠ '-' := by rintro rfl; cases hdigit
      have hplus : c ≠ '+' := by rintro rfl; cases hdigit
      simp only [exponentChars, List.cons_append] at hspan ⊢
      simp [readExponent?, hspan, hminus, hplus]

theorem readFraction?_fractionChars {ds tail : List Char} (h : ∀ c ∈ ds, c.isDigit = true) (htail : NoDigit tail)
    (hdot : ∀ c ∈ tail.head?, c ≠ '.') : readFraction? (fractionChars ds ++ tail) = some (ds, tail) := by
  by_cases hne : ds = []
  · subst hne
    cases tail with
    | nil => rfl
    | cons c tail =>
      have hc := hdot c rfl
      simp [fractionChars, readFraction?, hc]
  · simp [fractionChars, hne, readFraction?, spanDigits_append h htail]

theorem head?_exponentChars_ne_dot (e : Option (Bool × List Char)) (h : Ends rest) :
    ∀ c ∈ (exponentChars e ++ rest).head?, c ≠ '.' := by
  rcases e with _ | ⟨negative, ds⟩
  · intro c hc
    rcases h c hc with rfl | rfl | rfl <;> decide
  · simp [exponentChars]

theorem noDigit_fractionChars (ds : List Char) {tail : List Char} (htail : NoDigit tail) :
    NoDigit (fractionChars ds ++ tail) := by
  by_cases hne : ds = []
  · simpa [fractionChars, hne] using htail
  · simp only [fractionChars, hne, if_false, List.cons_append]
    exact Text.noDigit_cons rfl

/-- A number is read as it is written. -/
theorem readNumber?_toChars {n : Number} (h : n.WellFormed) (hrest : Ends rest) :
    readNumber? (n.toChars ++ rest) = some (n, rest) := by
  have hexponent := readExponent?_exponentChars h.exponent_digits h.exponent_ne_nil hrest
  have htail := noDigit_exponentChars n.exponent hrest
  have hfraction := readFraction?_fractionChars h.fraction_digits htail
    (head?_exponentChars_ne_dot n.exponent hrest)
  have hwhole := spanDigits_append h.whole_digits (noDigit_fractionChars n.fraction htail)
  have hzero : ¬(n.whole = [] ∨ n.whole.head? = some '0' ∧ n.whole.length ≠ 1) := by
    rintro (hnil | ⟨hhead, hlength⟩)
    · exact h.whole_ne_nil hnil
    · exact hlength (h.leading_zero hhead)
  rw [Number.toChars_eq, List.append_assoc, List.append_assoc, List.append_assoc]
  obtain ⟨negative, whole, fraction, exponent⟩ := n
  simp only at hexponent hfraction hwhole hzero
  cases negative with
  | true => simp [readNumber?, hwhole, hzero, hfraction, hexponent]
  | false =>
    obtain ⟨c, tail, rfl⟩ := List.exists_cons_of_ne_nil h.whole_ne_nil
    have hdigit : c.isDigit = true := h.whole_digits c (List.mem_cons_self ..)
    have hminus : c ≠ '-' := by rintro rfl; cases hdigit
    simp only [List.cons_append] at hwhole
    simpa [readNumber?, hminus, hwhole, hfraction, hexponent] using h.leading_zero

/-! ### Integers -/

/-- The number that stands for an integer. -/
def Number.ofInt (i : Int) : Number := ⟨i < 0, Nat.toDigits 10 i.natAbs, [], none⟩

theorem ofNat_eq (n : Nat) : ofNat n = .number (Number.ofInt n) := by
  have hneg : ¬(n : Int) < 0 := by omega
  simp [ofNat, Number.ofInt, hneg]

theorem Number.wellFormed_ofInt (i : Int) : (ofInt i).WellFormed where
  whole_digits _ := Text.isDigit_of_mem_toDigits
  whole_ne_nil := Nat.toDigits_ne_nil
  leading_zero := Text.length_toDigits_of_head?
  fraction_digits := nofun
  exponent_digits := nofun
  exponent_ne_nil := nofun

/-- An integer is written as it is shown. -/
theorem Number.toChars_ofInt (i : Int) : (ofInt i).toChars = (toString i).toList := by
  cases i with
  | ofNat n =>
    simp [Number.toChars, ofInt, toString, Int.repr, Nat.repr]
  | negSucc n =>
    have hneg : Int.negSucc n < 0 := by omega
    simp [Number.toChars, ofInt, hneg, toString, Int.repr, Nat.repr]

/-- An integer of 64 bits is read, whether or not it has a sign. -/
theorem Number.integer?_ofInt {i : Int} (hge : -(signedBound : Int) ≤ i) (hlt : i < unsignedBound) :
    (ofInt i).integer? = some i := by
  have hvalue : Text.digitsValue (Nat.toDigits 10 i.natAbs) = i.natAbs := Text.digitsValue_toDigits _
  simp only [integer?, ofInt, hvalue, true_and, if_true, decide_eq_true_eq]
  by_cases hneg : i < 0
  · have hbounds : 0 < i.natAbs ∧ i.natAbs ≤ signedBound := by omega
    rw [if_pos hneg, if_pos hbounds]
    congr 1
    omega
  · have hbound : i.natAbs < unsignedBound := by omega
    rw [if_neg hneg, if_pos hbound]
    congr 1
    omega
/-! ### Strings -/

/-- A character is escaped by another one, or by its number, or stands for itself. -/
theorem escapeChar_cases (c : Char) :
    (∃ e, escapeChar c = ['\\', e] ∧ e ≠ 'u' ∧ escapedChar? e = some c) ∨
      (∃ hi lo, escapeChar c = ['\\', 'u', '0', '0', hi, lo] ∧ c.toNat < 0x20 ∧
        Text.hexNumber? ['0', '0', hi, lo] = some c.toNat) ∨
      (escapeChar c = [c] ∧ ¬c.toNat < 0x20 ∧ c ≠ '\\' ∧ c ≠ '"') := by
  have hcontrol : ∀ n : Fin 32,
      Text.hexNumber? ['0', '0', Nat.digitChar (n / 16), Nat.digitChar (n % 16)] = some n.val := by decide
  unfold escapeChar
  split
  · exact .inl ⟨'"', rfl, by decide, rfl⟩
  · exact .inl ⟨'\\', rfl, by decide, rfl⟩
  · exact .inl ⟨'b', rfl, by decide, rfl⟩
  · exact .inl ⟨'f', rfl, by decide, rfl⟩
  · exact .inl ⟨'n', rfl, by decide, rfl⟩
  · exact .inl ⟨'r', rfl, by decide, rfl⟩
  · exact .inl ⟨'t', rfl, by decide, rfl⟩
  · rename_i hquote hbackslash _ _ _ _ _
    by_cases h : c.toNat < 0x20
    · rw [if_pos h]
      exact .inr (.inl ⟨_, _, rfl, h, hcontrol ⟨c.toNat, h⟩⟩)
    · rw [if_neg h]
      exact .inr (.inr ⟨rfl, h, hbackslash, hquote⟩)

theorem joinPieces?_unit {n : Nat} (h : n < 0x20) (ps : List Piece) :
    joinPieces? (.unit n :: ps) = (joinPieces? ps).map (Char.ofNat n :: ·) := by
  have hhigh : isHighSurrogate n = false := by
    simp only [isHighSurrogate, Bool.and_eq_false_iff, decide_eq_false_iff_not]
    omega
  have hlow : isLowSurrogate n = false := by
    simp only [isLowSurrogate, Bool.and_eq_false_iff, decide_eq_false_iff_not]
    omega
  rcases ps with _ | ⟨_ | l, ps⟩ <;> simp [joinPieces?, hhigh, hlow]

/-- The pieces of a quoted text make up the text. -/
theorem readPieces?_flatMap_escapeChar (s rest : List Char) :
    ∃ ps, readPieces? (s.flatMap escapeChar ++ '"' :: rest) = some (ps, rest) ∧ joinPieces? ps = some s := by
  induction s with
  | nil => exact ⟨[], by simp [readPieces?], rfl⟩
  | cons c s ih =>
    obtain ⟨ps, hps, hjoin⟩ := ih
    rw [List.flatMap_cons, List.append_assoc]
    rcases escapeChar_cases c with ⟨e, he, hu, hread⟩ | ⟨hi, lo, he, hlt, hread⟩ | ⟨he, hlt, hbackslash, hquote⟩
    · refine ⟨.char c :: ps, ?_, by simp [joinPieces?, hjoin]⟩
      simp [he, readPieces?, hu, hread, hps]
    · refine ⟨.unit c.toNat :: ps, ?_, ?_⟩
      · simp [he, readPieces?, hread, hps]
      · simp [joinPieces?_unit hlt, hjoin]
    · refine ⟨.char c :: ps, ?_, by simp [joinPieces?, hjoin]⟩
      simp [he, readPieces?, hlt, hbackslash, hps]

/-- A string is read as it is written. -/
theorem readString?_quoted (s rest : List Char) :
    readString? (s.flatMap escapeChar ++ '"' :: rest) = some (some (String.ofList s), rest) := by
  obtain ⟨ps, hps, hjoin⟩ := readPieces?_flatMap_escapeChar s rest
  simp [readString?, hps, hjoin]

theorem quoteChars_append (s rest : List Char) :
    quoteChars s ++ rest = '"' :: (s.flatMap escapeChar ++ '"' :: rest) := by
  simp [quoteChars]

/-! ### Spelling -/

/-- The text is read as the document, whatever follows. -/
structure Spells (s : List Char) (j : Json) : Prop where
  start : ∃ c tail, s = c :: tail ∧ isSpace c = false ∧ c ≠ ']'
  reads : ∀ fuel rest, s.length < fuel → Ends rest → readValue? fuel (s ++ rest) = some (j, rest)

/-- What is read from a text that starts with the given character decides what the text spells. -/
theorem spells_of_readValue? {c : Char} {tail : List Char} {j : Json} (hspace : isSpace c = false) (hne : c ≠ ']')
    (h : ∀ fuel rest, tail.length < fuel → Ends rest → readValue? (fuel + 1) (c :: (tail ++ rest)) = some (j, rest)) :
    Spells (c :: tail) j := by
  refine ⟨⟨c, tail, rfl, hspace, hne⟩, ?_⟩
  intro fuel rest hfuel hrest
  cases fuel with
  | zero => cases hfuel
  | succ fuel => exact h fuel rest (Nat.lt_of_succ_lt_succ hfuel) hrest

theorem spells_null : Spells "null".toList .null := by
  rw [show "null".toList = ['n', 'u', 'l', 'l'] from rfl]
  refine spells_of_readValue? rfl (by decide) fun fuel rest _ _ => ?_
  simp [readValue?, skipSpaces_cons (c := 'n') rfl, expectWord?]

theorem spells_bool (b : Bool) : Spells (if b then "true" else "false").toList (.bool b) := by
  cases b with
  | true =>
    rw [if_pos rfl, show "true".toList = ['t', 'r', 'u', 'e'] from rfl]
    refine spells_of_readValue? rfl (by decide) fun fuel rest _ _ => ?_
    simp [readValue?, skipSpaces_cons (c := 't') rfl, expectWord?]
  | false =>
    rw [if_neg Bool.false_ne_true, show "false".toList = ['f', 'a', 'l', 's', 'e'] from rfl]
    refine spells_of_readValue? rfl (by decide) fun fuel rest _ _ => ?_
    simp [readValue?, skipSpaces_cons (c := 'f') rfl, expectWord?]

theorem spells_string (s : List Char) : Spells (quoteChars s) (.string (some (String.ofList s))) := by
  refine spells_of_readValue? rfl (by decide) fun fuel rest _ _ => ?_
  simp [readValue?, skipSpaces_cons (c := '"') rfl, readString?_quoted]

theorem spells_number {n : Number} (h : n.WellFormed) : Spells n.toChars (.number n) := by
  obtain ⟨c, tail, hcons, hc⟩ : ∃ c tail, n.toChars = c :: tail ∧ (c = '-' ∨ c.isDigit = true) := by
    obtain ⟨c, tail, hwhole⟩ := List.exists_cons_of_ne_nil h.whole_ne_nil
    have hdigit := h.whole_digits c (by simp [hwhole])
    rw [Number.toChars_eq, hwhole]
    cases n.negative with
    | true => exact ⟨'-', _, rfl, .inl rfl⟩
    | false => exact ⟨c, _, rfl, .inr hdigit⟩
  have hread : ∀ rest, Ends rest → readNumber? (c :: (tail ++ rest)) = some (n, rest) := by
    intro rest hrest
    have hnumber := readNumber?_toChars h hrest
    rwa [hcons] at hnumber
  have hspace : isSpace c = false := by
    rcases hc with rfl | hc
    · rfl
    · exact isSpace_of_isDigit hc
  have hne : ∀ d : Char, d ≠ '-' → d.isDigit = false → c ≠ d := by
    intro d hminus hdigit hcd
    subst hcd
    rcases hc with hc | hc
    · exact hminus hc
    · simp [hdigit] at hc
  rw [hcons]
  refine spells_of_readValue? hspace (hne ']' (by decide) rfl) fun fuel rest _ hrest => ?_
  simp [readValue?, skipSpaces_cons hspace, hread rest hrest, hne '"' (by decide) rfl, hne '[' (by decide) rfl,
    hne '\x7b' (by decide) rfl, hne 'n' (by decide) rfl, hne 't' (by decide) rfl, hne 'f' (by decide) rfl]

/-! ### Arrays -/

theorem commaSeparated_cons_cons (s s' : List Char) (ss : List (List Char)) :
    commaSeparated (s :: s' :: ss) = s ++ ',' :: commaSeparated (s' :: ss) := rfl

/-- Items that are spelled are read one by one. -/
theorem readItems?_commaSeparated {s : List Char} {j : Json} {ss : List (List Char)} {js : List Json}
    (h : Spells s j) (hs : List.Forall₂ Spells ss js) {fuel : Nat}
    (hfuel : (commaSeparated (s :: ss)).length + 1 < fuel) (rest : List Char) :
    readItems? fuel (commaSeparated (s :: ss) ++ ']' :: rest) = some (j :: js, rest) := by
  induction hs generalizing s j fuel with
  | nil =>
    obtain ⟨fuel, rfl⟩ : ∃ k, fuel = k + 1 := ⟨fuel - 1, by omega⟩
    simp only [commaSeparated] at hfuel ⊢
    simp [readItems?, h.reads fuel (']' :: rest) (by omega) (ends_bracket rest), skipSpaces_cons (c := ']') rfl]
  | @cons s' j' ss js h' _ ih =>
    obtain ⟨fuel, rfl⟩ : ∃ k, fuel = k + 1 := ⟨fuel - 1, by omega⟩
    rw [commaSeparated_cons_cons, List.length_append, List.length_cons] at hfuel
    have hitem := h.reads fuel (',' :: (commaSeparated (s' :: ss) ++ ']' :: rest)) (by omega) (ends_comma _)
    have hitems : readItems? fuel (commaSeparated (s' :: ss) ++ ']' :: rest) = some (j' :: js, rest) :=
      ih h' (by omega)
    rw [commaSeparated_cons_cons, List.append_assoc, List.cons_append]
    simp [readItems?, hitem, skipSpaces_cons (c := ',') rfl, hitems]

/-- Spelled items make up a spelled array. -/
theorem Spells.array {ss : List (List Char)} {js : List Json} (h : List.Forall₂ Spells ss js) :
    Spells ('[' :: commaSeparated ss ++ [']']) (.array js) := by
  rw [List.cons_append]
  refine spells_of_readValue? rfl (by decide) fun fuel rest hfuel _ => ?_
  rw [List.append_assoc, List.singleton_append]
  cases h with
  | nil => simp [readValue?, commaSeparated, skipSpaces_cons (c := '[') rfl, skipSpaces_cons (c := ']') rfl]
  | @cons s j ss js h hs =>
    simp only [List.length_append, List.length_singleton] at hfuel
    have hitems := readItems?_commaSeparated h hs hfuel rest
    obtain ⟨c, tail, hcons, hspace, hne⟩ := h.start
    -- the first item starts with a character that is passed over neither as a blank nor as the end
    obtain ⟨tail', hstart⟩ : ∃ tail', commaSeparated (s :: ss) ++ ']' :: rest = c :: tail' := by
      cases ss with
      | nil => exact ⟨_, by rw [commaSeparated, hcons, List.cons_append]⟩
      | cons s' ss => exact ⟨_, by rw [commaSeparated_cons_cons, hcons, List.cons_append, List.cons_append]⟩
    rw [hstart] at hitems ⊢
    simp [readValue?, skipSpaces_cons (c := '[') rfl, skipSpaces_cons hspace, hne, hitems]

/-! ### Objects -/

/-- The text is a key with its document. -/
inductive SpellsEntry : List Char → Text × Json → Prop where
  | mk (key : List Char) {s : List Char} {j : Json} :
      Spells s j → SpellsEntry (quoteChars key ++ ':' :: s) (some (String.ofList key), j)

/-- Entries that are spelled are read one by one. -/
theorem readEntries?_commaSeparated {s : List Char} {e : Text × Json} {ss : List (List Char)}
    {es : List (Text × Json)} (h : SpellsEntry s e) (hs : List.Forall₂ SpellsEntry ss es) {fuel : Nat}
    (hfuel : (commaSeparated (s :: ss)).length + 1 < fuel) (rest : List Char) :
    readEntries? fuel (commaSeparated (s :: ss) ++ '\x7d' :: rest) = some (e :: es, rest) := by
  induction hs generalizing s e fuel with
  | nil =>
    obtain ⟨fuel, rfl⟩ : ∃ k, fuel = k + 1 := ⟨fuel - 1, by omega⟩
    cases h with
    | @mk key s j h =>
      simp only [commaSeparated, List.length_append, List.length_cons] at hfuel ⊢
      have hvalue := h.reads fuel ('\x7d' :: rest) (by omega) (ends_brace rest)
      rw [List.append_assoc, quoteChars_append, List.cons_append]
      simp [readEntries?, skipSpaces_cons (c := '"') rfl, readString?_quoted, skipSpaces_cons (c := ':') rfl, hvalue,
        skipSpaces_cons (c := '\x7d') rfl]
  | @cons s' e' ss es h' _ ih =>
    obtain ⟨fuel, rfl⟩ : ∃ k, fuel = k + 1 := ⟨fuel - 1, by omega⟩
    rw [commaSeparated_cons_cons, List.length_append, List.length_cons] at hfuel
    have hentries : readEntries? fuel (commaSeparated (s' :: ss) ++ '\x7d' :: rest) = some (e' :: es, rest) :=
      ih h' (by omega)
    cases h with
    | @mk key s j h =>
      rw [List.length_append, List.length_cons] at hfuel
      have hvalue := h.reads fuel (',' :: (commaSeparated (s' :: ss) ++ '\x7d' :: rest)) (by omega) (ends_comma _)
      rw [commaSeparated_cons_cons, List.append_assoc, List.append_assoc, List.cons_append, List.cons_append,
        quoteChars_append]
      simp [readEntries?, skipSpaces_cons (c := '"') rfl, readString?_quoted, skipSpaces_cons (c := ':') rfl, hvalue,
        skipSpaces_cons (c := ',') rfl, hentries]

/-- Spelled entries make up a spelled object. -/
theorem Spells.object {ss : List (List Char)} {es : List (Text × Json)} (h : List.Forall₂ SpellsEntry ss es) :
    Spells ('\x7b' :: commaSeparated ss ++ ['\x7d']) (.object es) := by
  rw [List.cons_append]
  refine spells_of_readValue? rfl (by decide) fun fuel rest hfuel _ => ?_
  rw [List.append_assoc, List.singleton_append]
  cases h with
  | nil =>
    simp [readValue?, commaSeparated, skipSpaces_cons (c := '\x7b') rfl, skipSpaces_cons (c := '\x7d') rfl]
  | @cons s e ss es h hs =>
    simp only [List.length_append, List.length_singleton] at hfuel
    have hentries := readEntries?_commaSeparated h hs hfuel rest
    obtain ⟨tail, hstart⟩ : ∃ tail, commaSeparated (s :: ss) ++ '\x7d' :: rest = '"' :: tail := by
      cases h with
      | mk key h =>
        cases ss with
        | nil => exact ⟨_, by rw [commaSeparated, List.append_assoc, quoteChars_append]⟩
        | cons s' ss =>
          exact ⟨_, by rw [commaSeparated_cons_cons, List.append_assoc, List.append_assoc, quoteChars_append]⟩
    rw [hstart] at hentries ⊢
    simp [readValue?, skipSpaces_cons (c := '\x7b') rfl, skipSpaces_cons (c := '"') rfl, hentries]

/-! ### Documents -/

/-- A text that spells a document is read as it. -/
theorem Spells.read? {s : List Char} {j : Json} (h : Spells s j) : Json.read? s = some j := by
  have hread := h.reads (s.length + 1) [] (Nat.lt_succ_self _) ends_nil
  have hend : skipSpaces [] = [] := rfl
  rw [List.append_nil] at hread
  simp only [Json.read?, hread, Option.bind_eq_bind, Option.bind_some, hend, if_true]

/-- The document can be written: its numbers follow the grammar, and its strings and keys are texts. -/
inductive WellFormed : Json → Prop where
  | null : WellFormed .null
  | bool (b : Bool) : WellFormed (.bool b)
  | number {n : Number} : n.WellFormed → WellFormed (.number n)
  | string (s : String) : WellFormed (.string (some s))
  | array {items : List Json} : (∀ j ∈ items, WellFormed j) → WellFormed (.array items)
  | object {entries : List (Text × Json)} : (∀ e ∈ entries, e.1.isSome = true) →
      (∀ e ∈ entries, WellFormed e.2) → WellFormed (.object entries)

theorem itemChars_eq_map (items : List Json) : itemChars items = items.map toChars := by
  induction items with
  | nil => rfl
  | cons j rest ih => rw [itemChars, ih, List.map_cons]

theorem entryChars_eq_map (entries : List (Text × Json)) :
    entryChars entries = entries.map fun e => quoteChars (e.1.getD "").toList ++ ':' :: toChars e.2 := by
  induction entries with
  | nil => rfl
  | cons e rest ih => rw [entryChars, ih, List.map_cons]

/-- A document is spelled as it is written. -/
theorem WellFormed.spells {j : Json} (h : j.WellFormed) : Spells j.toChars j := by
  induction h with
  | null => exact spells_null
  | bool b => exact spells_bool b
  | number h => exact spells_number h
  | string s =>
    rw [toChars, Option.getD_some]
    simpa using spells_string s.toList
  | @array items _ ih =>
    rw [toChars, itemChars_eq_map]
    refine Spells.array ?_
    rw [List.forall₂_map_left_iff, List.forall₂_same]
    exact ih
  | @object entries hkeys _ ih =>
    rw [toChars, entryChars_eq_map]
    refine Spells.object ?_
    rw [List.forall₂_map_left_iff, List.forall₂_same]
    rintro ⟨key, j⟩ he
    obtain ⟨key, rfl⟩ := Option.isSome_iff_exists.mp (hkeys _ he)
    simpa using SpellsEntry.mk key.toList (ih _ he)

/-- A document is read as it is written. -/
theorem read?_toChars {j : Json} (h : j.WellFormed) : read? j.toChars = some j := h.spells.read?

end EntityQuery.Json

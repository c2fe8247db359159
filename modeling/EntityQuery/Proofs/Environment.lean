import EntityQuery.Environment
import Mathlib.Data.List.Basic
import Mathlib.Data.List.TakeWhile

/-!
# References to variables

A reference is a name in braces after a dollar sign (`Environment.reference`). It has no second dollar sign in it,
so that no two references in a text overlap (`Environment.Occurs.apart`): which of them are replaced does not
depend on where the search goes on after one of them was found, or was not.

What the expansion of a text is can therefore be said without searching. The text is cut into pieces: the references
to variables that are set, all of them, and the single characters that are left (`Environment.Cuts`). In the
expansion each piece of the first kind gives way to the value of its variable, and those of the second kind stay
(`Environment.expand_exact`).
-/

namespace EntityQuery

namespace Environment

variable {env : Environment} {name other value : String} {text before after rest : List Char}

/-! ### Names and references -/

/-- A name by which a variable can be referred to: letters, digits and underscores, and no digit at the start. The
letters and digits are those of ASCII. -/
def IsName (name : String) : Prop :=
  ∃ first rest, name.toList = first :: rest ∧ (first.isAlpha ∨ first = '_') ∧
    ∀ c ∈ rest, c.isAlpha ∨ c.isDigit ∨ c = '_'

/-- A reference as it is written. -/
def reference (name : String) : List Char := '$' :: '\x7b' :: (name.toList ++ ['\x7d'])

/-- There is a reference in the text, with a part of the text before it and another one after it. -/
structure Occurs (text before : List Char) (name : String) (after : List Char) : Prop where
  isName : IsName name
  text_eq : text = before ++ reference name ++ after

theorem reference_append (name : String) (rest : List Char) :
    reference name ++ rest = '$' :: '\x7b' :: (name.toList ++ '\x7d' :: rest) := by
  simp [reference]

theorem IsName.all (h : IsName name) : ∀ c ∈ name.toList, isNameChar c = true := by
  obtain ⟨first, rest, hname, hfirst, hrest⟩ := h
  rw [hname, List.forall_mem_cons]
  refine ⟨?_, fun c hc => ?_⟩
  · rcases hfirst with hfirst | rfl
    · simp [isNameChar, Char.isAlphanum, hfirst]
    · rfl
  · rcases hrest c hc with hc | hc | rfl
    · simp [isNameChar, Char.isAlphanum, hc]
    · simp [isNameChar, Char.isAlphanum, hc]
    · rfl

theorem not_isDigit_of_isAlpha {c : Char} (h : c.isAlpha = true) : c.isDigit = false := by
  have halpha : c.isAlpha = (decide ('A'.val ≤ c.val ∧ c.val ≤ 'Z'.val) ||
      (decide ('a'.val ≤ c.val) && decide (c.val ≤ 'z'.val))) := rfl
  have hdigit : c.isDigit = (decide ('0'.val ≤ c.val) && decide (c.val ≤ '9'.val)) := rfl
  have hupper : 'A'.val.toNat = 65 := rfl
  have hlower : 'a'.val.toNat = 97 := rfl
  have hnine : '9'.val.toNat = 57 := rfl
  rw [halpha] at h
  rw [hdigit]
  simp only [Bool.or_eq_true, Bool.and_eq_true, Bool.and_eq_false_iff, decide_eq_true_eq,
    decide_eq_false_iff_not, UInt32.le_iff_toNat_le] at h ⊢
  omega

/-- A name is read where it is followed by the closing brace, and nowhere else. -/
theorem reference?_eq_some_iff : reference? text = some (name, rest) ↔
    IsName name ∧ text = name.toList ++ '\x7d' :: rest := by
  constructor
  · intro h
    dsimp only [reference?] at h
    split at h
    · rename_i c cs tail htake hdrop
      split at h
      · cases h
      · rename_i hdigit
        obtain ⟨rfl, rfl⟩ := Prod.mk.inj (Option.some.inj h)
        have hchars : ∀ d ∈ c :: cs, isNameChar d = true := fun d hd =>
          List.mem_takeWhile_imp (htake ▸ hd)
        simp only [isNameChar, Char.isAlphanum, Bool.or_eq_true, beq_iff_eq, List.forall_mem_cons,
          or_assoc] at hchars
        refine ⟨⟨c, cs, by rw [htake, String.toList_ofList], ?_, hchars.2⟩, ?_⟩
        · exact hchars.1.imp_right fun h => h.resolve_left hdigit
        · rw [String.toList_ofList, ← hdrop, List.takeWhile_append_dropWhile]
    · cases h
  · rintro ⟨hname, rfl⟩
    have htake : (name.toList ++ '\x7d' :: rest).takeWhile isNameChar = name.toList := by
      rw [List.takeWhile_append_of_pos hname.all, List.takeWhile_cons_of_neg (by decide), List.append_nil]
    have hdrop : (name.toList ++ '\x7d' :: rest).dropWhile isNameChar = '\x7d' :: rest := by
      rw [List.dropWhile_append_of_pos hname.all, List.dropWhile_cons_of_neg (by decide)]
    obtain ⟨first, cs, hcons, hfirst, -⟩ := hname
    have hdigit : first.isDigit = false := by
      rcases hfirst with hfirst | rfl
      · exact not_isDigit_of_isAlpha hfirst
      · rfl
    have hofList : String.ofList (first :: cs) = name := by rw [← hcons, String.ofList_toList]
    simp only [reference?, htake, hdrop]
    simp only [hcons, hdigit, hofList, Bool.false_eq_true, if_false]

/-! ### Where references are -/

theorem dollar_not_mem_reference (h : IsName name) : '$' ∉ '\x7b' :: (name.toList ++ ['\x7d']) := by
  have hname : '$' ∉ name.toList := fun hmem => absurd (h.all _ hmem) (by decide)
  simp [hname]

/-- Two references at the same place are the same. -/
theorem reference_inj (hname : IsName name) (hother : IsName other)
    (h : reference name ++ rest = reference other ++ after) : name = other ∧ rest = after := by
  simp only [reference_append, List.cons.injEq, true_and] at h
  have hread : reference? (name.toList ++ '\x7d' :: rest) = some (name, rest) :=
    reference?_eq_some_iff.mpr ⟨hname, rfl⟩
  rw [h, reference?_eq_some_iff.mpr ⟨hother, rfl⟩] at hread
  obtain ⟨rfl, rfl⟩ := Prod.mk.inj (Option.some.inj hread)
  exact ⟨rfl, rfl⟩

/-- A text that starts with a reference has no other one before the end of that. -/
theorem Occurs.of_reference (hname : IsName name) (h : Occurs (reference name ++ rest) before other after) :
    (before = [] ∧ other = name ∧ after = rest) ∨
      ∃ between, before = reference name ++ between ∧ Occurs rest between other after := by
  obtain ⟨hother, htext⟩ := h
  rw [List.append_assoc] at htext
  rcases List.append_eq_append_iff.mp htext with ⟨between, hbefore, hrest⟩ | ⟨behind, hreference, hrest⟩
  · exact .inr ⟨between, hbefore, hother, by rw [hrest, List.append_assoc]⟩
  cases before with
  | nil =>
    obtain ⟨rfl, rfl⟩ := reference_inj hname hother htext
    exact .inl ⟨rfl, rfl, rfl⟩
  | cons c cs =>
    -- The first reference has no dollar sign but at its start, so it ends before the second one starts.
    cases behind with
    | nil =>
      rw [List.append_nil] at hreference
      exact .inr ⟨[], by rw [hreference, List.append_nil], hother, hrest.symm⟩
    | cons d ds =>
      obtain rfl : d = '$' := (List.cons.inj hrest).1.symm
      have htail := (List.cons.inj hreference).2
      refine absurd ?_ (dollar_not_mem_reference hname)
      rw [htail]
      simp

/-- Two references in a text are one and the same, or one ends before the other starts. -/
theorem Occurs.apart {before' after' : List Char} (h : Occurs text before name after)
    (h' : Occurs text before' other after') :
    (before = before' ∧ name = other ∧ after = after') ∨
      (∃ between, before' = before ++ reference name ++ between) ∨
      ∃ between, before = before' ++ reference other ++ between := by
  obtain ⟨hname, rfl⟩ := h
  obtain ⟨hother, htext⟩ := h'
  rw [List.append_assoc, List.append_assoc] at htext
  rcases List.append_eq_append_iff.mp htext with ⟨between, rfl, hrest⟩ | ⟨between, rfl, hrest⟩
  · rcases Occurs.of_reference hname ⟨hother, by rw [hrest, List.append_assoc]⟩ with
      ⟨rfl, rfl, rfl⟩ | ⟨between, rfl, -⟩
    · simp
    · exact .inr (.inl ⟨between, by rw [List.append_assoc]⟩)
  · rcases Occurs.of_reference hother ⟨hname, by rw [hrest, List.append_assoc]⟩ with
      ⟨rfl, rfl, rfl⟩ | ⟨between, rfl, -⟩
    · simp
    · exact .inr (.inr ⟨between, by rw [List.append_assoc]⟩)

/-! ### Expansion step by step -/

/-- What stands for a reference in the expansion: the value of the variable, or the reference itself. -/
def resolve (env : Environment) (name : String) : List Char :=
  match env.get? name with
  | some value => value.toList
  | none => reference name

/-- The text starts with a reference to a variable that is set. -/
def Resolves (env : Environment) (text : List Char) : Prop :=
  ∃ name value rest, IsName name ∧ env.get? name = some value ∧ text = reference name ++ rest

theorem expand_reference (hname : IsName name) (hvalue : env.get? name = some value) (rest : List Char) :
    env.expand (reference name ++ rest) = value.toList ++ env.expand rest := by
  have hread : reference? (name.toList ++ '\x7d' :: rest) = some (name, rest) :=
    reference?_eq_some_iff.mpr ⟨hname, rfl⟩
  rw [reference_append, expand]
  split
  · rename_i heq
    obtain ⟨rfl, rfl⟩ := Prod.mk.inj (Option.some.inj (heq.symm.trans hread))
    rw [hvalue]
  · rename_i heq
    cases heq.symm.trans hread

/-- A character that starts no reference to a variable that is set stays. -/
theorem expand_cons {c : Char} (h : ¬env.Resolves (c :: rest)) :
    env.expand (c :: rest) = c :: env.expand rest := by
  by_cases hopen : ∃ tail, c :: rest = '$' :: '\x7b' :: tail
  · obtain ⟨tail, heq⟩ := hopen
    obtain ⟨rfl, rfl⟩ := List.cons.inj heq
    rw [expand]
    split
    · rename_i name after hread
      obtain ⟨hname, rfl⟩ := reference?_eq_some_iff.mp hread
      split
      · rename_i value hvalue
        exact absurd ⟨name, value, after, hname, hvalue, (reference_append name after).symm⟩ h
      · rfl
    · rfl
  · rw [expand]
    rintro tail rfl rfl
    exact hopen ⟨tail, rfl⟩

/-- Induction over a text as it is expanded. -/
theorem resolves_induct (env : Environment) {motive : List Char → Prop} (nil : motive [])
    (replaced : ∀ name value rest, IsName name → env.get? name = some value → motive rest →
      motive (reference name ++ rest))
    (kept : ∀ c rest, ¬env.Resolves (c :: rest) → motive rest → motive (c :: rest)) (text : List Char) :
    motive text := by
  induction hlength : text.length using Nat.strong_induction_on generalizing text with
  | _ n ih =>
    by_cases h : env.Resolves text
    · obtain ⟨name, value, rest, hname, hvalue, rfl⟩ := h
      refine replaced name value rest hname hvalue (ih rest.length ?_ rest rfl)
      simp only [reference_append, List.length_cons, List.length_append] at hlength
      omega
    · cases text with
      | nil => exact nil
      | cons c rest =>
        refine kept c rest h (ih rest.length ?_ rest rfl)
        simp only [List.length_cons] at hlength
        omega

/-- What has no dollar sign in it is kept. -/
theorem expand_append_of_notMem {s : List Char} (h : '$' ∉ s) (rest : List Char) :
    env.expand (s ++ rest) = s ++ env.expand rest := by
  induction s with
  | nil => rfl
  | cons c s ih =>
    rw [List.mem_cons, not_or] at h
    have hc : ¬env.Resolves (c :: (s ++ rest)) := by
      rintro ⟨name, -, tail, -, -, htext⟩
      exact h.1 (List.cons.inj htext).1.symm
    rw [List.cons_append, expand_cons hc, ih h.2, List.cons_append]

/-- A reference is resolved by itself, whatever follows it. -/
theorem expand_reference_append (hname : IsName name) (rest : List Char) :
    env.expand (reference name ++ rest) = env.resolve name ++ env.expand rest := by
  cases hvalue : env.get? name with
  | some value => rw [expand_reference hname hvalue, resolve, hvalue]
  | none =>
    have hc : ¬env.Resolves (reference name ++ rest) := by
      rintro ⟨other, value, tail, hother, hset, htext⟩
      obtain ⟨rfl, -⟩ := reference_inj hname hother htext
      cases hvalue.symm.trans hset
    rw [resolve, hvalue]
    calc env.expand (reference name ++ rest)
        = '$' :: env.expand ('\x7b' :: (name.toList ++ ['\x7d']) ++ rest) := expand_cons hc
      _ = reference name ++ env.expand rest := by
        rw [expand_append_of_notMem (dollar_not_mem_reference hname)]
        rfl

/-- A reference is resolved by itself, whatever is around it. -/
theorem expand_around (h : Occurs text before name after) :
    env.expand text = env.expand before ++ env.resolve name ++ env.expand after := by
  obtain ⟨hname, rfl⟩ := h
  induction before using resolves_induct env with
  | nil => rw [List.nil_append, expand_reference_append hname, expand_nil, List.nil_append]
  | replaced other value rest hother hvalue ih =>
    rw [List.append_assoc, List.append_assoc, expand_reference hother hvalue, expand_reference hother hvalue,
      ← List.append_assoc rest, ih]
    simp only [List.append_assoc]
  | kept c rest hc ih =>
    have hc' : ¬env.Resolves (c :: (rest ++ reference name ++ after)) := by
      rintro ⟨other, value, tail, hother, hvalue, htext⟩
      have hoccurs : Occurs (reference other ++ tail) (c :: rest) name after := ⟨hname, by rw [← htext]; rfl⟩
      rcases hoccurs.of_reference hother with ⟨hnil, -⟩ | ⟨between, hbefore, -⟩
      · cases hnil
      · exact hc ⟨other, value, between, hother, hvalue, hbefore⟩
    rw [List.cons_append, List.cons_append, expand_cons hc', expand_cons hc, ih]
    rfl

/-! ### Pieces -/

/-- A piece of a text. -/
inductive Piece where
  /-- A character that stays. -/
  | kept (c : Char)
  /-- A reference, and what is put in its place. -/
  | replaced (name value : String)

/-- A piece as it is in the text. -/
def Piece.source : Piece → List Char
  | kept c => [c]
  | replaced name _ => reference name

/-- A piece as it is in the expansion. -/
def Piece.target : Piece → List Char
  | kept c => [c]
  | replaced _ value => value.toList

/-- A reference among the pieces is replaced, between a part of the text before it and another one after it. -/
def Replaces (ps : List Piece) (before : List Char) (name value : String) (after : List Char) : Prop :=
  ∃ ps₁ ps₂, ps = ps₁ ++ .replaced name value :: ps₂ ∧ ps₁.flatMap Piece.source = before ∧
    ps₂.flatMap Piece.source = after

/-- The pieces make up the text, and exactly the references in it to variables that are set are replaced, each by
the value of its variable. -/
structure Cuts (env : Environment) (text : List Char) (ps : List Piece) : Prop where
  source_eq : ps.flatMap Piece.source = text
  replaces_iff : ∀ before name value after, Replaces ps before name value after ↔
    Occurs text before name after ∧ env.get? name = some value

variable {p : Piece} {ps : List Piece}

theorem Piece.source_ne_nil (p : Piece) : p.source ≠ [] := by
  cases p <;> simp [source, reference]

theorem not_replaces_nil : ¬Replaces [] before name value after := by
  rintro ⟨ps₁, ps₂, hps, -, -⟩
  simp at hps

/-- What is replaced is the first piece, or it comes behind that. -/
theorem replaces_cons_iff : Replaces (p :: ps) before name value after ↔
    (p = .replaced name value ∧ before = [] ∧ ps.flatMap Piece.source = after) ∨
      ∃ between, before = p.source ++ between ∧ Replaces ps between name value after := by
  constructor
  · rintro ⟨ps₁, ps₂, hps, rfl, rfl⟩
    cases ps₁ with
    | nil =>
      obtain ⟨rfl, rfl⟩ := List.cons.inj hps
      exact .inl ⟨rfl, rfl, rfl⟩
    | cons q ps₁ =>
      obtain ⟨rfl, rfl⟩ := List.cons.inj hps
      exact .inr ⟨ps₁.flatMap Piece.source, List.flatMap_cons, ps₁, ps₂, rfl, rfl, rfl⟩
  · rintro (⟨rfl, rfl, rfl⟩ | ⟨between, rfl, ps₁, ps₂, rfl, rfl, rfl⟩)
    · exact ⟨[], ps, rfl, rfl, rfl⟩
    · exact ⟨p :: ps₁, ps₂, rfl, List.flatMap_cons, rfl⟩

theorem occurs_append_iff {s : List Char} :
    Occurs (s ++ text) (s ++ before) name after ↔ Occurs text before name after := by
  constructor
  · rintro ⟨hname, htext⟩
    rw [List.append_assoc, List.append_assoc, List.append_cancel_left_eq, ← List.append_assoc] at htext
    exact ⟨hname, htext⟩
  · rintro ⟨hname, rfl⟩
    exact ⟨hname, by simp only [List.append_assoc]⟩

/-! ### There is a cut -/

theorem Cuts.nil : Cuts env [] [] := by
  refine ⟨rfl, fun before name value after => ⟨fun h => absurd h not_replaces_nil, ?_⟩⟩
  rintro ⟨⟨-, htext⟩, -⟩
  simp [reference] at htext

theorem Cuts.replaced (h : Cuts env rest ps) (hname : IsName name) (hvalue : env.get? name = some value) :
    Cuts env (reference name ++ rest) (.replaced name value :: ps) := by
  refine ⟨by rw [List.flatMap_cons, h.source_eq]; rfl, fun before other value' after => ?_⟩
  rw [replaces_cons_iff]
  constructor
  · rintro (⟨hpiece, rfl, rfl⟩ | ⟨between, rfl, hreplaces⟩)
    · obtain ⟨rfl, rfl⟩ := Piece.replaced.inj hpiece
      exact ⟨⟨hname, by rw [h.source_eq, List.nil_append]⟩, hvalue⟩
    · exact ((h.replaces_iff ..).mp hreplaces).imp_left occurs_append_iff.mpr
  · rintro ⟨hoccurs, hset⟩
    rcases hoccurs.of_reference hname with ⟨rfl, rfl, rfl⟩ | ⟨between, rfl, hrest⟩
    · obtain rfl := Option.some.inj (hset.symm.trans hvalue)
      exact .inl ⟨rfl, rfl, h.source_eq⟩
    · exact .inr ⟨between, rfl, (h.replaces_iff ..).mpr ⟨hrest, hset⟩⟩

theorem Cuts.kept {c : Char} (h : Cuts env rest ps) (hc : ¬env.Resolves (c :: rest)) :
    Cuts env (c :: rest) (.kept c :: ps) := by
  refine ⟨by rw [List.flatMap_cons, h.source_eq]; rfl, fun before name value after => ?_⟩
  rw [replaces_cons_iff]
  constructor
  · rintro (⟨hpiece, -⟩ | ⟨between, rfl, hreplaces⟩)
    · cases hpiece
    · exact ((h.replaces_iff ..).mp hreplaces).imp_left (occurs_append_iff (s := [c])).mpr
  · rintro ⟨⟨hname, htext⟩, hset⟩
    cases before with
    | nil => exact absurd ⟨name, value, after, hname, hset, htext⟩ hc
    | cons d between =>
      obtain ⟨rfl, hrest⟩ := List.cons.inj htext
      exact .inr ⟨between, rfl, (h.replaces_iff ..).mpr ⟨⟨hname, hrest⟩, hset⟩⟩

theorem exists_cuts (env : Environment) (text : List Char) : ∃ ps, Cuts env text ps := by
  induction text using resolves_induct env with
  | nil => exact ⟨[], .nil⟩
  | replaced name value rest hname hvalue ih =>
    obtain ⟨ps, hps⟩ := ih
    exact ⟨.replaced name value :: ps, hps.replaced hname hvalue⟩
  | kept c rest hc ih =>
    obtain ⟨ps, hps⟩ := ih
    exact ⟨.kept c :: ps, hps.kept hc⟩

/-! ### The expansion of a cut -/

/-- Without its first piece, a cut is one of the rest of the text. -/
theorem Cuts.tail (h : Cuts env text (p :: ps)) : ∃ rest, text = p.source ++ rest ∧ Cuts env rest ps := by
  have htext : text = p.source ++ ps.flatMap Piece.source := by rw [← h.source_eq, List.flatMap_cons]
  refine ⟨_, htext, rfl, fun before name value after => ?_⟩
  have hbehind : Replaces (p :: ps) (p.source ++ before) name value after ↔
      Replaces ps before name value after := by
    simp [replaces_cons_iff, p.source_ne_nil]
  rw [← hbehind, h.replaces_iff, htext, occurs_append_iff]

/-- Whichever way a text is cut, the expansion has the pieces one behind the other. -/
theorem Cuts.expand_eq (h : Cuts env text ps) : env.expand text = ps.flatMap Piece.target := by
  induction ps generalizing text with
  | nil =>
    obtain rfl := h.source_eq
    exact expand_nil env
  | cons p ps ih =>
    obtain ⟨rest, rfl, hrest⟩ := h.tail
    rw [List.flatMap_cons, ← ih hrest]
    cases p with
    | replaced name value =>
      have hfirst : Replaces (.replaced name value :: ps) [] name value (ps.flatMap Piece.source) :=
        replaces_cons_iff.mpr (.inl ⟨rfl, rfl, rfl⟩)
      obtain ⟨hoccurs, hvalue⟩ := (h.replaces_iff ..).mp hfirst
      exact expand_reference hoccurs.isName hvalue rest
    | kept c =>
      have hc : ¬env.Resolves (c :: rest) := by
        rintro ⟨name, value, tail, hname, hvalue, htext⟩
        have hfirst := (h.replaces_iff [] name value tail).mpr ⟨⟨hname, htext⟩, hvalue⟩
        rcases replaces_cons_iff.mp hfirst with ⟨hpiece, -⟩ | ⟨between, hnil, -⟩
        · cases hpiece
        · cases hnil
      exact expand_cons hc

/-- A text stays as it is if no variable is set that it refers to. -/
theorem expand_eq_self (h : ∀ before name after, Occurs text before name after → env.get? name = none) :
    env.expand text = text := by
  induction text using resolves_induct env with
  | nil => exact expand_nil env
  | replaced name value rest hname hvalue =>
    cases (h [] name rest ⟨hname, rfl⟩).symm.trans hvalue
  | kept c rest hc ih =>
    rw [expand_cons hc, ih fun before name after hoccurs => ?_]
    exact h (c :: before) name after (occurs_append_iff (s := [c]).mpr hoccurs)

/-- A text has a cut, in which exactly the references to variables that are set are replaced by their values, and
the expansion is what any such cut has in the end. No choice is made between references, since they do not overlap.
Each is resolved by itself, so that a value is not looked at again, not even together with what is around it, and
without references to variables that are set nothing happens. -/
theorem expand_exact (env : Environment) (text : List Char) :
    (∃ ps, Cuts env text ps) ∧ (∀ ps, Cuts env text ps → env.expand text = ps.flatMap Piece.target) ∧
      (∀ before name after before' other after', Occurs text before name after → Occurs text before' other after' →
        (before = before' ∧ name = other ∧ after = after') ∨
          (∃ between, before' = before ++ reference name ++ between) ∨
          ∃ between, before = before' ++ reference other ++ between) ∧
      (∀ before name after, Occurs text before name after →
        env.expand text = env.expand before ++ env.resolve name ++ env.expand after) ∧
      ((∀ before name after, Occurs text before name after → env.get? name = none) → env.expand text = text) :=
  ⟨exists_cuts env text, fun _ => Cuts.expand_eq, fun _ _ _ _ _ _ => Occurs.apart,
    fun _ _ _ => expand_around, expand_eq_self⟩

/-- A reference in the place of a name is resolved, to one that would be resolved too if it were looked at. -/
theorem expand_exact_nested :
    let env : Environment := ⟨[("A", "$\x7bB\x7d"), ("B", "b")]⟩
    Occurs "$\x7b$\x7bA\x7d\x7d".toList "$\x7b".toList "A" "\x7d".toList ∧
      env.expand "$\x7b$\x7bA\x7d\x7d".toList = "$\x7b$\x7bB\x7d\x7d".toList := by
  intro env
  have hoccurs : Occurs "$\x7b$\x7bA\x7d\x7d".toList "$\x7b".toList "A" "\x7d".toList :=
    ⟨⟨'A', [], rfl, .inl rfl, nofun⟩, rfl⟩
  obtain ⟨-, -, -, haround, -⟩ := expand_exact env "$\x7b$\x7bA\x7d\x7d".toList
  have hstays : ∀ s : List Char, '$' ∉ s ∨ '\x7d' ∉ s → env.expand s = s := by
    intro s hs
    obtain ⟨-, -, -, -, hself⟩ := expand_exact env s
    refine hself fun before name after h => ?_
    rw [h.text_eq] at hs
    simp [reference] at hs
  refine ⟨hoccurs, ?_⟩
  rw [haround _ _ _ hoccurs, hstays "$\x7b".toList (.inr (by decide)), hstays "\x7d".toList (.inl (by decide))]
  rfl

end Environment

end EntityQuery

import EntityQuery.Proofs.Expr.Substitution

/-!
# Renaming and the parameters of an expression

An expression that fits a place mentions one parameter only (`Fits.eq_of_mem_parameters`). Others may mention
any number of parameters, and renaming one of them to another may make two of them one. What that does to an
expression is said here without assuming that it fits: nothing, if the parameter is not mentioned
(`rename_eq_self`), and otherwise `a` and `b` are confused, whichever of them is renamed to the other. So
the expression with `b` in the place of `a` fits about `b` exactly where the one with `a` in the place of `b`
fits about `a` (`fits_rename_iff`).
-/

namespace EntityQuery

variable {S : Schema}

theorem OpaqueTest.withSubject_withSubject (t : OpaqueTest S) {p q : Parameter S}
    (hp : p.entity = t.subject.entity) (hq : q.entity = (t.withSubject p hp).subject.entity) :
    (t.withSubject p hp).withSubject q hq = t.withSubject q (hq.trans hp) := rfl

theorem OpaqueTest.withSubject_eq_self {t : OpaqueTest S} {p : Parameter S} (hp : t.subject = p)
    (h : p.entity = t.subject.entity) : t.withSubject p h = t := by
  subst hp
  rfl

namespace Expr

/-! ### The parameters of an expression -/

mutual

/-- The parameters that an expression mentions, the subjects of its tests among them. -/
def parameters : Expr S → List (Parameter S)
  | .parameter p => [p]
  | .constant _ => []
  | .member target _ | .project target _ => parameters target
  | .compare _ l r | .and l r | .or l r => parameters l ++ parameters r
  | .call _ target args => parameters target ++ parametersOf args
  | .not inner => parameters inner
  | .test t => [t.subject]

/-- The parameters that several expressions mention. -/
def parametersOf : List (Expr S) → List (Parameter S)
  | [] => []
  | e :: rest => parameters e ++ parametersOf rest

end

theorem mem_parametersOf {es : List (Expr S)} {p : Parameter S} :
    p ∈ parametersOf es ↔ ∃ e ∈ es, p ∈ e.parameters := by
  induction es with
  | nil => simp [parametersOf]
  | cons e rest ih => simp [parametersOf, ih]

/-- What fits a place about a parameter mentions no other. -/
theorem Fits.eq_of_mem_parameters {bound p : Parameter S} {e : Expr S} {place : Place S}
    (h : Fits bound e place) (hp : p ∈ e.parameters) : p = bound := by
  induction h with
  | parameter => simpa [parameters] using hp
  | constant | truth => simp [parameters] at hp
  | project _ ih | member _ ih | flag _ _ ih | not _ ih | asValue _ ih =>
    exact ih (by simpa [parameters] using hp)
  | compare _ _ ihl ihr | and _ _ ihl ihr | or _ _ ihl ihr =>
    rw [parameters, List.mem_append] at hp
    exact hp.elim ihl ihr
  | call _ _ _ iht iha =>
    rw [parameters, List.mem_append, mem_parametersOf] at hp
    rcases hp with hp | ⟨e, he, hp⟩
    · exact iht hp
    · exact iha e he hp
  | test hs =>
    rw [parameters, List.mem_singleton] at hp
    rw [hp, hs]

/-! ### Renaming -/

variable {a b : Parameter S}

/-- Renaming changes nothing if the parameter is not mentioned, or if it keeps its name. -/
theorem rename_eq_self (h : b.entity = a.entity) {e : Expr S} (ha : a ∈ e.parameters → a = b) :
    e.rename a b h = e := by
  induction e using Expr.induct with
  | parameter p =>
    rw [rename]
    split
    · rename_i hp
      have hab : a = b := ha (by rw [parameters, hp]; exact List.mem_singleton_self a)
      rw [hp, hab]
    · rfl
  | constant v => rw [rename]
  | member target m ih | project target p ih | not e ih => rw [rename, ih ha]
  | compare op l r ihl ihr | and l r ihl ihr | or l r ihl ihr =>
    rw [rename, ihl fun hl => ha (List.mem_append_left _ hl),
      ihr fun hr => ha (List.mem_append_right _ hr)]
  | call m target args iht iha =>
    have hargs : args.map (rename a b h) = args := by
      refine (List.map_congr_left fun e he => iha e he fun hmem => ?_).trans (List.map_id args)
      exact ha (List.mem_append_right _ (mem_parametersOf.mpr ⟨e, he, hmem⟩))
    rw [rename, renames_eq_map, hargs, iht fun ht => ha (List.mem_append_left _ ht)]
  | test t =>
    rw [rename]
    split
    · rename_i ht
      have hab : a = b := ha (by rw [parameters, ht]; exact List.mem_singleton_self a)
      rw [OpaqueTest.withSubject_eq_self (ht.trans hab)]
    · rfl

/-- A parameter that was renamed is renamed back, together with the one it was confused with. -/
theorem rename_rename (h : b.entity = a.entity) (e : Expr S) :
    (e.rename b a h.symm).rename a b h = e.rename a b h := by
  induction e using Expr.induct with
  | parameter p =>
    simp only [rename, parameter.injEq]
    split
    · rename_i hp
      simp [hp]
    · rfl
  | constant v => simp only [rename]
  | member target m ih | project target p ih | not e ih => simp only [rename, ih]
  | compare op l r ihl ihr | and l r ihl ihr | or l r ihl ihr => simp only [rename, ihl, ihr]
  | call m target args iht iha =>
    have hargs : (args.map (rename b a h.symm)).map (rename a b h) = args.map (rename a b h) := by
      rw [List.map_map]
      exact List.map_congr_left iha
    simp only [rename, renames_eq_map, iht, hargs]
  | test t =>
    simp only [rename, test.injEq]
    by_cases hb : t.subject = b
    · subst hb
      by_cases ha : t.subject = a
      · simp [ha, OpaqueTest.withSubject_withSubject]
      · simp [ha, OpaqueTest.withSubject_withSubject, OpaqueTest.withSubject_eq_self]
    · simp [hb]

/-- Of two parameters that are made one, it does not matter which of them stays. -/
theorem fits_rename_iff (h : b.entity = a.entity) {e : Expr S} {place : Place S} :
    (e.rename a b h).Fits b place ↔ (e.rename b a h.symm).Fits a place := by
  constructor
  · intro he
    rw [← rename_rename h.symm]
    exact fits_rename h.symm he
  · intro he
    rw [← rename_rename h]
    exact fits_rename h he

end Expr

end EntityQuery

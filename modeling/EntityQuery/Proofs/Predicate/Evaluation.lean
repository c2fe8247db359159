import EntityQuery.Predicate.Specification
import EntityQuery.Proofs.Expr.Compilation

/-!
# Asking specifications

A specification is asked directly, or by way of a cache and of the predicate that it remembers. Both ways
give the same answer as long as what is kept was compiled from the tree of the specification
(`Cache.Serves`), and asking keeps it so (`Cache.Serves.compiledWith`, `Cache.Serves.isSatisfiedWith`).

`Specification.Means` says what a specification is for: it compiles, and the rows that satisfy it, asked in
either way, are those at which a function is true. A specification whose body fits the place of a
condition means what its body denotes (`Specification.means_holdsAt`).
-/

namespace EntityQuery

/-! ### Computations with a supply -/

namespace Fresh

theorem pure_apply {α : Type} (a : α) (s : Supply) : (pure a : Fresh α) s = (a, s) := rfl

theorem bind_apply {α β : Type} (m : Fresh α) (f : α → Fresh β) (s : Supply) :
    (m >>= f) s = f (m s).1 (m s).2 := rfl

/-- Whatever numbers are unused, the result has the property. -/
def Ensures {α : Type} (m : Fresh α) (P : α → Prop) : Prop := ∀ s, P (m s).1

variable {α β : Type} {P : α → Prop} {Q : β → Prop}

theorem Ensures.pure {a : α} (h : P a) : Ensures (Pure.pure a) P := fun _ => h

theorem Ensures.bind {m : Fresh α} {f : α → Fresh β} (hm : m.Ensures P)
    (hf : ∀ a, P a → (f a).Ensures Q) : Ensures (m >>= f) Q := by
  intro s
  exact hf _ (hm s) (m s).2

end Fresh

variable {S : Schema} {t : S.Entity}

/-! ### Lookups -/

namespace Cache

variable {c : Cache S} {tree : Tree S t}

/-- The entry of a tree, if it has one, was compiled from the tree. -/
def Agrees (c : Cache S) (tree : Tree S t) : Prop :=
  ∀ e, c.find? tree.id = some e → e.entity = t ∧ tree.compile = .ok e.code

theorem Agrees.of_find?_eq_none (h : c.find? tree.id = none) : c.Agrees tree := by
  intro e he
  rw [h] at he
  cases he

theorem Agrees.of_get? (h : c.Agrees tree) {p : Predicate S t} (hp : c.get? tree = some p) :
    tree.compile = .ok p.compiled.code := by
  obtain ⟨e, he, hp⟩ := Option.bind_eq_some_iff.mp hp
  unfold Compiled.as? at hp
  split at hp
  · cases hp
    exact (h e he).2
  · cases hp

/-- A tree that a lookup does not find has no entry. -/
theorem Agrees.find?_eq_none (h : c.Agrees tree) (hp : c.get? tree = none) :
    c.find? tree.id = none := by
  cases he : c.find? tree.id with
  | none => rfl
  | some e => simp [get?, he, Compiled.as?, (h e he).1] at hp

/-! The outcome of a lookup, for a tree that is found, one that does not compile and a new one. -/

theorem compile_of_get? {p : Predicate S t} (hp : c.get? tree = some p) (s : Supply) :
    (c.compile tree s).1 = (.ok p, { c with hits := c.hits + 1 }) := by
  simp [Cache.compile, hp, Fresh.pure_apply]

theorem compile_of_error {err : QueryError} (hp : c.get? tree = none) (hf : tree.compile = .error err)
    (s : Supply) : (c.compile tree s).1 = (.error err, { c with misses := c.misses + 1 }) := by
  simp [Cache.compile, hp, Tree.compileNew, hf, Fresh.pure_apply]

theorem compile_of_ok {f : ConditionCode S} (hp : c.get? tree = none) (hn : c.find? tree.id = none)
    (hf : tree.compile = .ok f) (s : Supply) :
    ∃ (p : Predicate S t) (d : Cache S), (c.compile tree s).1 = (.ok p, d) ∧ p.compiled.code = f ∧
      d.find? tree.id = some p.compiled := by
  let p : Predicate S t := ⟨⟨t, tree.id, s.callables, f⟩, rfl⟩
  let d : Cache S := { c with misses := c.misses + 1, compilations := c.compilations + 1 }
  have hd : d.find? tree.id = none := hn
  have hpublish : (d.publish tree.id p.compiled).1 = p.compiled := by
    simp [publish, hd]
  refine ⟨p, (d.publish tree.id p.compiled).2, ?_, rfl, ?_⟩
  · have has : (d.publish tree.id p.compiled).1.as? t = some p := by
      rw [hpublish, Compiled.as?_compiled]
    simp only [Cache.compile, hp, Tree.compileNew, hf, Fresh.bind_apply, Fresh.pure_apply,
      Fresh.callable]
    simp only [p, d] at has
    rw [has]
    rfl
  · rw [find?_publish_self, hpublish]

/-- A lookup gives what the tree compiles to, or the fault that it does not compile with, and the entry
of the tree agrees with it afterwards. -/
theorem Agrees.compile (h : c.Agrees tree) (s : Supply) :
    (c.compile tree s).1.1.map (fun p => p.compiled.code) = tree.compile ∧
      (c.compile tree s).1.2.Agrees tree := by
  cases hp : c.get? tree with
  | some p =>
    rw [compile_of_get? hp]
    exact ⟨(h.of_get? hp).symm, h⟩
  | none =>
    have hn := h.find?_eq_none hp
    cases hf : tree.compile with
    | error err =>
      rw [compile_of_error hp hf]
      exact ⟨rfl, .of_find?_eq_none hn⟩
    | ok f =>
      obtain ⟨p, d, hc, rfl, he⟩ := compile_of_ok hp hn hf s
      rw [hc]
      refine ⟨rfl, fun e he' => ?_⟩
      obtain rfl := Option.some.inj (he.symm.trans he')
      exact ⟨p.entity_eq, hf⟩

/-- What a cache and the specification itself keep was compiled from the tree of the specification. -/
structure Serves (c : Cache S) (a : Specification S t) : Prop where
  memo : ∀ p, a.memo = some p → a.tree.compile = .ok p.compiled.code
  entry : c.Agrees a.tree

namespace Serves

variable {a : Specification S t}

/-- The predicate of a specification is what its tree compiles to, and the cache serves the
specification still. -/
theorem compiledWith (h : c.Serves a) (s : Supply) :
    (a.compiledWith c s).1.1.map (fun p => p.compiled.code) = a.tree.compile ∧
      (a.compiledWith c s).1.2.2.Serves (a.compiledWith c s).1.2.1 := by
  cases hm : a.memo with
  | some p =>
    have hc : (a.compiledWith c s).1 = (.ok p, a, c) := by
      simp [Specification.compiledWith, hm, Fresh.pure_apply]
    rw [hc]
    exact ⟨(h.memo p hm).symm, h⟩
  | none =>
    obtain ⟨hcode, hentry⟩ := h.entry.compile s
    rcases hp : c.compile a.tree s with ⟨⟨err | p, d⟩, s'⟩
    · have hc : (a.compiledWith c s).1 = (.error err, a, d) := by
        simp only [Specification.compiledWith, hm, Fresh.bind_apply, hp]
        rfl
      rw [hp] at hcode hentry
      rw [hc]
      exact ⟨hcode, h.memo, hentry⟩
    · have hc : (a.compiledWith c s).1 = (.ok p, { a with memo := some p }, d) := by
        simp only [Specification.compiledWith, hm, Fresh.bind_apply, hp]
        rfl
      rw [hp] at hcode hentry
      rw [hc]
      refine ⟨hcode, fun q hq => ?_, hentry⟩
      cases hq
      exact hcode.symm

/-- To ask by way of a cache is to ask. -/
theorem isSatisfiedWith (h : c.Serves a) (r : S.Row t) (s : Supply) :
    (a.isSatisfiedWith c r s).1.1 = a.isSatisfiedBy r := by
  have hc : (a.isSatisfiedWith c r s).1.1 = (a.compiledWith c s).1.1.map fun p => p.holds r := rfl
  rw [hc, Specification.isSatisfiedBy, Tree.holds, ← (h.compiledWith s).1]
  cases (a.compiledWith c s).1.1 <;> rfl

end Serves

end Cache

/-! ### Meanings -/

namespace Specification

variable {a : Specification S t}

/-- The tree of the specification is well formed. -/
def Compiles (a : Specification S t) : Prop := ∃ code, a.tree.compile = .ok code

/-- Whether a row satisfies the specification. No row satisfies one that does not compile. -/
def accepts (a : Specification S t) (r : S.Row t) : Bool :=
  match a.isSatisfiedBy r with
  | .ok b => b
  | .error _ => false

/-- The specification compiles, and the rows at which `f` is true satisfy it and no others, whether it is
asked directly or by way of a cache. -/
structure Means (a : Specification S t) (f : S.Row t → Bool) : Prop where
  compiles : a.Compiles
  direct : ∀ r, a.isSatisfiedBy r = .ok (f r)
  cached : ∀ c : Cache S, c.Serves a → ∀ r s, (a.isSatisfiedWith c r s).1.1 = .ok (f r)

theorem compiles_iff : a.Compiles ↔ a.tree.body.Fits a.tree.parameter .condition := by
  constructor
  · rintro ⟨code, hcode⟩
    exact (Tree.compile_eq_ok_iff_fits.mp hcode).1
  · intro h
    exact ⟨_, Tree.compile_eq_ok h⟩

/-- A specification means what its body denotes, if its body fits the place of a condition. -/
theorem means_holdsAt (h : a.tree.body.Fits a.tree.parameter .condition) :
    a.Means fun r => a.tree.body.holdsAt ⟨t, r⟩ where
  compiles := compiles_iff.mpr h
  direct := Tree.holds_eq_ok h
  cached c hc r s := by
    rw [hc.isSatisfiedWith, isSatisfiedBy, Tree.holds_eq_ok h]

theorem Means.accepts_eq {f : S.Row t → Bool} (h : a.Means f) (r : S.Row t) : a.accepts r = f r := by
  rw [accepts, h.direct]

/-- The rows that satisfy a specification are picked in their order. -/
theorem Means.filterRows_eq {f : S.Row t → Bool} (h : a.Means f) (rows : List (S.Row t)) :
    a.filterRows rows = .ok (rows.filter f) := by
  obtain ⟨code, hcode⟩ := h.compiles
  have hf : (fun r => code ⟨t, r⟩) = f := by
    funext r
    have hr := h.direct r
    rw [isSatisfiedBy, Tree.holds, hcode] at hr
    exact Except.ok.inj hr
  rw [filterRows, hcode]
  exact congrArg (fun f => Except.ok (rows.filter f)) hf

theorem Means.fits {f : S.Row t → Bool} (h : a.Means f) :
    a.tree.body.Fits a.tree.parameter .condition :=
  compiles_iff.mp h.compiles

theorem Means.holdsAt_eq {f : S.Row t → Bool} (h : a.Means f) (r : S.Row t) :
    a.tree.body.holdsAt ⟨t, r⟩ = f r := by
  have hr := h.direct r
  rw [isSatisfiedBy, Tree.holds_eq_ok h.fits] at hr
  exact Except.ok.inj hr

/-- The meaning of a specification is read off its tree. -/
theorem means_of_fits {f : S.Row t → Bool} (h : a.tree.body.Fits a.tree.parameter .condition)
    (hf : ∀ r, a.tree.body.holdsAt ⟨t, r⟩ = f r) : a.Means f := by
  rw [← funext hf]
  exact means_holdsAt h

/-- What a specification that compiles means is the rows that it accepts. -/
theorem Compiles.means (h : a.Compiles) : a.Means a.accepts := by
  have hm := means_holdsAt (compiles_iff.mp h)
  exact means_of_fits hm.fits fun r => (hm.accepts_eq r).symm

end Specification

end EntityQuery

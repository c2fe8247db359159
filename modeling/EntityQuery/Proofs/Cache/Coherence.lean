import EntityQuery.Proofs.Cache.Entries
import EntityQuery.Proofs.Expr.Refusal
import EntityQuery.Proofs.People
import Mathlib.Logic.Function.Basic

/-!
# Sessions with caches

In a session specifications are made, copied and compiled, directly or by way of any number of caches, and caches are
cleared and what is in them removed, in any order (`Session.Step`, `Session.Run`). Every tree that is made has an
identity of its own, which copies share (`Session.Makes.makesTree`).

Whatever was done, every entry was compiled from the tree under whose identity it is kept, and what a specification
remembers was compiled from its tree (`Session.Sound`, `Session.Run.sound`). So a cache answers as if the tree were
compiled directly, and it has what was compiled by way of it and not removed since (`Session.run_coherent`).
-/

namespace EntityQuery

variable {S : Schema} {t : S.Entity}

/-! ### Making trees -/

/-- The computation fails, or makes one tree with a new identity. -/
def Fresh.MakesTree (m : Fresh (Result (Specification S t))) : Prop :=
  ∀ s, (∃ err, (m s).1 = .error err ∧ (m s).2.trees = s.trees) ∨
    ∃ tree : Tree S t, (m s).1 = .ok (.ofTree tree) ∧ tree.id = s.trees ∧ (m s).2.trees = s.trees + 1

/-- A specification whose making cannot fail. -/
def Fresh.succeeding (m : Fresh (Specification S t)) : Fresh (Result (Specification S t)) := .ok <$> m

/-- The specification of a tree from any parameter and body. -/
def Specification.ofParts (t : S.Entity) (p : Parameter S) (body : Expr S) : Fresh (Result (Specification S t)) := do
  return (← Tree.ofParts t p body).map ofTree

namespace Fresh

theorem makesTree_derive (a : Specification S t) (body : Expr S) : MakesTree (succeeding (a.derive body)) := by
  intro s
  exact .inr ⟨_, rfl, rfl, rfl⟩

theorem makesTree_constant (b : Bool) : MakesTree (succeeding (.ofTree <$> Tree.constant t b)) := by
  intro s
  exact .inr ⟨_, rfl, rfl, rfl⟩

theorem makesTree_build (f : Position S t → Result (Expr S)) : MakesTree (Specification.build t f) := by
  intro s
  let p : Parameter S := ⟨s.parameters, Tree.parameterName, t⟩
  cases hf : f (.ofParameter p rfl) with
  | ok body =>
    have hbuild : Specification.build t f s = (.ok (.ofTree ⟨s.trees, p, body, rfl⟩),
        { s with parameters := s.parameters + 1, trees := s.trees + 1 }) := by
      simp only [Specification.build, Tree.build, Fresh.bind_apply, Fresh.parameterId, p, hf]
      rfl
    rw [hbuild]
    exact .inr ⟨_, rfl, rfl, rfl⟩
  | error err =>
    have hbuild : Specification.build t f s = (.error err, { s with parameters := s.parameters + 1 }) := by
      simp only [Specification.build, Tree.build, Fresh.bind_apply, Fresh.parameterId, p, hf]
      rfl
    rw [hbuild]
    exact .inl ⟨_, rfl, rfl⟩

theorem makesTree_ofParts (p : Parameter S) (body : Expr S) : MakesTree (Specification.ofParts t p body) := by
  intro s
  simp only [Specification.ofParts, Tree.ofParts, Fresh.bind_apply]
  split
  · exact .inr ⟨_, rfl, rfl, rfl⟩
  · exact .inl ⟨_, rfl, rfl⟩

theorem makesTree_lift (a : Specification S t) (label : String) (p : S.Entity) (map : S.Row p → S.Row t) :
    MakesTree (a.lift label p map) := by
  intro s
  let q : Parameter S := ⟨s.parameters, a.tree.parameter.name, p⟩
  let lifting := ({} : Substitution S).replace a.tree.parameter (.project (.parameter q) ⟨label, p, t, map⟩)
  cases hlifting : lifting.apply a.tree.body with
  | ok body =>
    have hlift : a.lift label p map s = (.ok (.ofTree ⟨s.trees, q, body, rfl⟩),
        { s with parameters := s.parameters + 1, trees := s.trees + 1 }) := by
      simp only [lifting, q] at hlifting
      simp only [Specification.lift, Fresh.bind_apply, Fresh.parameterId, hlifting]
      rfl
    rw [hlift]
    exact .inr ⟨_, rfl, rfl, rfl⟩
  | error err =>
    have hlift : a.lift label p map s = (.error err, { s with parameters := s.parameters + 1 }) := by
      simp only [lifting, q] at hlifting
      simp only [Specification.lift, Fresh.bind_apply, Fresh.parameterId, hlifting]
      rfl
    rw [hlift]
    exact .inl ⟨_, rfl, rfl⟩

end Fresh

/-! ### Sessions -/

/-- What a program holds: specifications about whichever types, and caches by numbers. -/
structure Session (S : Schema) where
  supply : Supply := {}
  specifications : List (Σ t : S.Entity, Specification S t) := []
  caches : Nat → Cache S := fun _ => .empty

/-- What happens to the entries of a cache. -/
inductive CacheChange where
  /-- A tree was compiled, or found. -/
  | compiled (id : Nat)
  | removed (id : Nat)
  | cleared
  deriving DecidableEq

/-- What happened to which cache, the latest last. -/
abbrev History := List (Nat × CacheChange)

/-- A tree was compiled by way of a cache, and after that neither removed nor the cache cleared. -/
def Kept (k id : Nat) (es : History) : Prop :=
  ∃ before after : History,
    es = before ++ (k, .compiled id) :: after ∧ (k, .removed id) ∉ after ∧ (k, .cleared) ∉ after

/-- What is recorded of compiling a tree by way of a cache. -/
def compiledEvent {α : Type} (k id : Nat) : Result α → History
  | .ok _ => [(k, .compiled id)]
  | .error _ => []

namespace Session

variable {s s' : Session S} {es : History}

/-- The specification has been made in the session. -/
def Holds (s : Session S) (a : Specification S t) : Prop := ⟨t, a⟩ ∈ s.specifications

/-- The trees of what is held. -/
def trees (s : Session S) : List (AnyTree S) := s.specifications.map fun x => ⟨x.1, x.2.tree⟩

/-- How specifications are made, anew or from those that are held. -/
inductive Makes (s : Session S) : {t : S.Entity} → Fresh (Result (Specification S t)) → Prop where
  | build {t : S.Entity} (f : Position S t → Result (Expr S)) : Makes s (Specification.build t f)
  | ofParts {t : S.Entity} (p : Parameter S) (body : Expr S) : Makes s (Specification.ofParts t p body)
  | always (t : S.Entity) : Makes s (Fresh.succeeding (Specification.always t))
  | never (t : S.Entity) : Makes s (Fresh.succeeding (Specification.never t))
  | and {t : S.Entity} {a b : Specification S t} (ha : s.Holds a) (hb : s.Holds b) :
    Makes s (Fresh.succeeding (a.and b))
  | or {t : S.Entity} {a b : Specification S t} (ha : s.Holds a) (hb : s.Holds b) :
    Makes s (Fresh.succeeding (a.or b))
  | not {t : S.Entity} {a : Specification S t} (ha : s.Holds a) : Makes s (Fresh.succeeding a.not)
  | lift {t : S.Entity} {a : Specification S t} (ha : s.Holds a) (label : String) (p : S.Entity)
    (map : S.Row p → S.Row t) : Makes s (a.lift label p map)

/-- The session that holds one more specification. -/
def hold (s : Session S) (a : Specification S t) : Session S :=
  { s with specifications := s.specifications ++ [⟨t, a⟩] }

/-- The session with another cache of a number. -/
def setCache (s : Session S) (k : Nat) (c : Cache S) : Session S :=
  { s with caches := Function.update s.caches k c }

/-- What may be done in a session, and what of it happens to caches. To look up in a cache changes nothing. -/
inductive Step (s : Session S) : History → Session S → Prop where
  | make {t : S.Entity} {m : Fresh (Result (Specification S t))} {a : Specification S t} {u : Supply}
    (hm : s.Makes m) (hout : m s.supply = (.ok a, u)) : Step s [] ({ s with supply := u }.hold a)
  | fail {t : S.Entity} {m : Fresh (Result (Specification S t))} {err : QueryError} {u : Supply}
    (hm : s.Makes m) (hout : m s.supply = (.error err, u)) : Step s [] { s with supply := u }
  /-- A copy remembers what the specification remembers. -/
  | copy {t : S.Entity} {a : Specification S t} (ha : s.Holds a) : Step s [] (s.hold a)
  /-- The tree is held as a specification that remembers nothing. -/
  | copyTree {t : S.Entity} {a : Specification S t} (ha : s.Holds a) : Step s [] (s.hold (.ofTree a.tree))
  | compile {t : S.Entity} {a : Specification S t} (k : Nat) (ha : s.Holds a) {r : Result (Predicate S t)}
    {c : Cache S} {u : Supply} (hout : (s.caches k).compile a.tree s.supply = ((r, c), u)) :
    Step s (compiledEvent k a.tree.id r) ({ s with supply := u }.setCache k c)
  /-- The cache is not consulted if the specification remembers its predicate. -/
  | compiledWith {t : S.Entity} {a b : Specification S t} (k : Nat)
    {before after : List (Σ t : S.Entity, Specification S t)} (ha : s.specifications = before ++ ⟨t, a⟩ :: after)
    {r : Result (Predicate S t)} {c : Cache S} {u : Supply}
    (hout : a.compiledWith (s.caches k) s.supply = ((r, b, c), u)) :
    Step s (if a.memo.isSome then [] else compiledEvent k a.tree.id r)
      ({ s with supply := u, specifications := before ++ ⟨t, b⟩ :: after : Session S }.setCache k c)
  /-- A tree is compiled directly. -/
  | compileNew {t : S.Entity} {a : Specification S t} (ha : s.Holds a) :
    Step s [] { s with supply := (a.tree.compileNew s.supply).2 }
  | remove (k id : Nat) : Step s [(k, .removed id)] (s.setCache k ((s.caches k).remove id).2)
  | clear (k : Nat) : Step s [(k, .cleared)] (s.setCache k (s.caches k).clear)
  | resetCounters (k : Nat) : Step s [] (s.setCache k (s.caches k).resetCounters)

/-- Sessions that begin with empty caches, and what happened to the caches. -/
inductive Run : History → Session S → Prop where
  | start : Run [] {}
  | step {es es' : History} {s s' : Session S} (h : Run es s) (hs : Step s es' s') : Run (es ++ es') s'

end Session

/-! ### Histories -/

theorem kept_append_singleton {k id j : Nat} {x : CacheChange} {es : History} :
    Kept k id (es ++ [(j, x)]) ↔
      j = k ∧ x = .compiled id ∨ Kept k id es ∧ ¬(j = k ∧ (x = .removed id ∨ x = .cleared)) := by
  constructor
  · rintro ⟨before, after, hes, hr, hc⟩
    rcases List.eq_nil_or_concat after with rfl | ⟨after, y, rfl⟩
    · obtain ⟨-, heq⟩ := List.append_inj' hes rfl
      cases heq
      exact .inl ⟨rfl, rfl⟩
    · rw [List.concat_eq_append, ← List.cons_append, ← List.append_assoc] at hes
      obtain ⟨hinit, heq⟩ := List.append_inj' hes rfl
      cases heq
      rw [List.concat_eq_append, List.mem_append, List.mem_singleton, not_or] at hr hc
      refine .inr ⟨⟨before, after, hinit, hr.1, hc.1⟩, ?_⟩
      rintro ⟨rfl, rfl | rfl⟩
      · exact hr.2 rfl
      · exact hc.2 rfl
  · rintro (⟨rfl, rfl⟩ | ⟨⟨before, after, rfl, hr, hc⟩, hx⟩)
    · exact ⟨es, [], rfl, List.not_mem_nil, List.not_mem_nil⟩
    · refine ⟨before, after ++ [(j, x)], by rw [List.append_assoc, List.cons_append], ?_, ?_⟩
      · rw [List.mem_append, List.mem_singleton, not_or]
        refine ⟨hr, fun heq => ?_⟩
        cases heq
        exact hx ⟨rfl, .inl rfl⟩
      · rw [List.mem_append, List.mem_singleton, not_or]
        refine ⟨hc, fun heq => ?_⟩
        cases heq
        exact hx ⟨rfl, .inr rfl⟩

theorem not_kept_nil (k id : Nat) : ¬Kept k id [] := by
  rintro ⟨before, after, hes, -⟩
  exact List.append_ne_nil_of_right_ne_nil before (List.cons_ne_nil _ _) hes.symm

/-! ### Compiling directly -/

namespace Tree

variable {tree : Tree S t} {r : Result (Predicate S t)}

/-- What has the code of a tree agrees with a predicate that is compiled from it anew. -/
theorem map_holds_eq_compileNew (h : r.map (fun p => p.compiled.code) = tree.compile) (s : Supply) :
    r.map Predicate.holds = (tree.compileNew s).1.map Predicate.holds := by
  cases r with
  | ok p =>
    rw [compileNew_of_ok h.symm]
    rfl
  | error err =>
    rw [compileNew_of_error h.symm]

/-- Trees that do not compile are malformed. -/
theorem ne_wrongEntity (tree : Tree S t) (h : r.map (fun p => p.compiled.code) = tree.compile) (id : Nat) :
    r ≠ .error (Cache.wrongEntity id) := by
  rintro rfl
  have hcode := tree.compile_blamesTree _ h.symm
  cases hcode

end Tree

/-! ### Invariants -/

namespace Session

variable {s s' : Session S} {es : History}

/-- Trees are told apart by their identities, which were used before. What is remembered was compiled from its tree,
and what is in a cache stems from the trees. It is what the history says is kept. -/
structure Sound (s : Session S) (es : History) : Prop where
  used : ∀ x ∈ s.trees, x.2.id < s.supply.trees
  identified : Identified s.trees
  memo : ∀ x ∈ s.specifications, ∀ p, x.2.memo = some p → x.2.tree.compile = .ok p.compiled.code
  cached : ∀ k, (s.caches k).StemsFrom s.trees
  kept : ∀ k id, ((s.caches k).find? id).isSome = true ↔ Kept k id es

theorem Holds.mem_trees {a : Specification S t} (ha : s.Holds a) : ⟨t, a.tree⟩ ∈ s.trees :=
  List.mem_map.mpr ⟨_, ha, rfl⟩

theorem trees_hold (s : Session S) (a : Specification S t) : (s.hold a).trees = s.trees ++ [⟨t, a.tree⟩] := by
  simp [trees, hold]

theorem caches_setCache_self (s : Session S) (k : Nat) (c : Cache S) : (s.setCache k c).caches k = c :=
  Function.update_self ..

theorem caches_setCache_of_ne {j k : Nat} (h : j ≠ k) (s : Session S) (c : Cache S) :
    (s.setCache k c).caches j = s.caches j :=
  Function.update_of_ne h ..

theorem sound_start : ({} : Session S).Sound [] where
  used x hx := by cases hx
  identified x hx := by cases hx
  memo x hx := by cases hx
  cached _ := Cache.stemsFrom_empty _
  kept k id := iff_of_false nofun (not_kept_nil k id)

namespace Sound

theorem agrees (h : s.Sound es) {tree : Tree S t} (hx : ⟨t, tree⟩ ∈ s.trees) (k : Nat) :
    (s.caches k).Agrees tree := (h.cached k).agrees h.identified hx

/-- A supply that was used for other things than trees. -/
theorem withSupply (h : s.Sound es) {u : Supply} (hu : u.trees = s.supply.trees) :
    { s with supply := u }.Sound es where
  used x hx := by
    rw [hu]
    exact h.used x hx
  identified := h.identified
  memo := h.memo
  cached := h.cached
  kept := h.kept

/-- Something new is held, about a new tree. -/
theorem hold_new (h : s.Sound es) {tree : Tree S t} (hid : tree.id = s.supply.trees) {u : Supply}
    (hu : u.trees = s.supply.trees + 1) : ({ s with supply := u }.hold (.ofTree tree)).Sound es := by
  have htrees : ({ s with supply := u }.hold (.ofTree tree)).trees = s.trees ++ [⟨t, tree⟩] := trees_hold ..
  have hother : ∀ x ∈ s.trees, x.2.id ≠ tree.id := fun x hx => hid ▸ Nat.ne_of_lt (h.used x hx)
  constructor
  case used =>
    intro x hx
    rw [htrees, List.mem_append, List.mem_singleton] at hx
    show x.2.id < u.trees
    rw [hu]
    rcases hx with hx | rfl
    · exact Nat.lt_succ_of_lt (h.used x hx)
    · exact hid ▸ Nat.lt_succ_self _
  case identified =>
    intro x hx y hy hxy
    rw [htrees, List.mem_append, List.mem_singleton] at hx hy
    rcases hx with hx | rfl
    · rcases hy with hy | rfl
      · exact h.identified x hx y hy hxy
      · exact absurd hxy (hother x hx)
    · rcases hy with hy | rfl
      · exact absurd hxy.symm (hother y hy)
      · rfl
  case memo =>
    intro x hx p hp
    rcases List.mem_append.mp hx with hx | hx
    · exact h.memo x hx p hp
    · obtain rfl := List.mem_singleton.mp hx
      cases hp
  case cached =>
    rw [htrees]
    exact fun k => (h.cached k).mono fun x => List.mem_append_left _
  case kept => exact h.kept

/-- Something more is held, about a tree about which something is held. -/
theorem hold_copy (h : s.Sound es) {a : Specification S t} (ha : ⟨t, a.tree⟩ ∈ s.trees)
    (hm : ∀ p, a.memo = some p → a.tree.compile = .ok p.compiled.code) : (s.hold a).Sound es := by
  have htrees : ∀ x ∈ (s.hold a).trees, x ∈ s.trees := by
    intro x hx
    rw [trees_hold, List.mem_append, List.mem_singleton] at hx
    exact hx.elim id fun heq => heq ▸ ha
  constructor
  case used => exact fun x hx => h.used x (htrees x hx)
  case identified => exact fun x hx y hy => h.identified x (htrees x hx) y (htrees y hy)
  case memo =>
    intro x hx p hp
    rcases List.mem_append.mp hx with hx | hx
    · exact h.memo x hx p hp
    · obtain rfl := List.mem_singleton.mp hx
      exact hm p hp
  case cached =>
    rw [trees_hold]
    exact fun k => (h.cached k).mono fun x => List.mem_append_left _
  case kept => exact h.kept

/-- Something is remembered that the tree was compiled to. -/
theorem replace (h : s.Sound es) {before after : List (Σ t : S.Entity, Specification S t)}
    {a b : Specification S t} (ha : s.specifications = before ++ ⟨t, a⟩ :: after) (htree : b.tree = a.tree)
    (hm : ∀ p, b.memo = some p → a.tree.compile = .ok p.compiled.code) :
    { s with specifications := before ++ ⟨t, b⟩ :: after : Session S }.Sound es := by
  have htrees : { s with specifications := before ++ ⟨t, b⟩ :: after : Session S }.trees = s.trees := by
    simp [trees, ha, htree]
  constructor
  case used =>
    rw [htrees]
    exact h.used
  case identified =>
    rw [htrees]
    exact h.identified
  case memo =>
    have hmemo := h.memo
    rw [ha, List.forall_mem_append, List.forall_mem_cons] at hmemo
    show ∀ x ∈ before ++ ⟨t, b⟩ :: after, _
    rw [List.forall_mem_append, List.forall_mem_cons]
    refine ⟨hmemo.1, fun p hp => ?_, hmemo.2.2⟩
    rw [htree]
    exact hm p hp
  case cached =>
    rw [htrees]
    exact h.cached
  case kept => exact h.kept

theorem cached_setCache (h : s.Sound es) {k : Nat} {c : Cache S} (hc : c.StemsFrom s.trees) (j : Nat) :
    ((s.setCache k c).caches j).StemsFrom s.trees := by
  by_cases hj : j = k
  · subst hj
    rw [caches_setCache_self]
    exact hc
  · rw [caches_setCache_of_ne hj]
    exact h.cached j

/-- A cache that has what the history says. -/
theorem setCache (h : s.Sound es) (k : Nat) {c : Cache S} (hc : c.StemsFrom s.trees) {x : CacheChange}
    (hkept : ∀ id, (c.find? id).isSome = true ↔
      x = .compiled id ∨ ((s.caches k).find? id).isSome = true ∧ ¬(x = .removed id ∨ x = .cleared)) :
    (s.setCache k c).Sound (es ++ [(k, x)]) := by
  constructor
  case used => exact h.used
  case identified => exact h.identified
  case memo => exact h.memo
  case cached => exact h.cached_setCache hc
  case kept =>
    intro j id
    rw [kept_append_singleton, ← h.kept]
    by_cases hj : j = k
    · subst hj
      rw [caches_setCache_self, hkept]
      simp
    · rw [caches_setCache_of_ne hj]
      simp [Ne.symm hj]

/-- A cache with the entries that it had before. -/
theorem setCache_of_entries_eq (h : s.Sound es) (k : Nat) {c : Cache S}
    (hentries : c.entries = (s.caches k).entries) : (s.setCache k c).Sound es := by
  constructor
  case used => exact h.used
  case identified => exact h.identified
  case memo => exact h.memo
  case cached => exact h.cached_setCache ((h.cached k).of_entries_eq hentries)
  case kept =>
    intro j id
    rw [← h.kept]
    by_cases hj : j = k
    · subst hj
      rw [caches_setCache_self, Cache.find?_eq_of_entries hentries]
    · rw [caches_setCache_of_ne hj]

/-- A tree is compiled by way of a cache. -/
theorem compile (h : s.Sound es) {tree : Tree S t} (hx : ⟨t, tree⟩ ∈ s.trees) {k : Nat}
    {r : Result (Predicate S t)} {c : Cache S} {u : Supply}
    (hout : (s.caches k).compile tree s.supply = ((r, c), u)) :
    ({ s with supply := u }.setCache k c).Sound (es ++ compiledEvent k tree.id r) := by
  have hagrees := h.agrees hx k
  have hsupply := hagrees.trees_compile s.supply
  have hstems := (h.cached k).compile h.identified hx s.supply
  have hsome := hagrees.isSome_find?_compile s.supply
  rw [hout] at hsupply hstems hsome
  have hs := h.withSupply hsupply
  cases r with
  | ok p =>
    refine hs.setCache k hstems fun id => ?_
    rw [hsome]
    constructor
    · rintro (hid | ⟨rfl, -⟩)
      · exact .inr ⟨hid, nofun⟩
      · exact .inl rfl
    · rintro (heq | ⟨hid, -⟩)
      · cases heq
        exact .inr ⟨rfl, p, rfl⟩
      · exact .inl hid
  | error err =>
    have herr : ((s.caches k).compile tree s.supply).1.1 = .error err := by rw [hout]
    have hentries := hagrees.entries_of_compile_eq_error herr
    rw [hout] at hentries
    rw [compiledEvent, List.append_nil]
    exact hs.setCache_of_entries_eq k hentries

/-- A specification is compiled, and remembers what it was compiled to. -/
theorem compiledWith (h : s.Sound es) {before after : List (Σ t : S.Entity, Specification S t)}
    {a b : Specification S t} (ha : s.specifications = before ++ ⟨t, a⟩ :: after) {k : Nat}
    {r : Result (Predicate S t)} {c : Cache S} {u : Supply}
    (hout : a.compiledWith (s.caches k) s.supply = ((r, b, c), u)) :
    ({ s with supply := u, specifications := before ++ ⟨t, b⟩ :: after : Session S }.setCache k c).Sound
      (es ++ if a.memo.isSome then [] else compiledEvent k a.tree.id r) := by
  have hholds : s.Holds a := by
    rw [Holds, ha]
    exact List.mem_append_right _ List.mem_cons_self
  cases hm : a.memo with
  | some p =>
    obtain ⟨⟨rfl, rfl, rfl⟩, rfl⟩ : ((r = .ok p) ∧ b = a ∧ c = s.caches k) ∧ u = s.supply := by
      rw [Specification.compiledWith_of_memo hm] at hout
      cases hout
      exact ⟨⟨rfl, rfl, rfl⟩, rfl⟩
    rw [← ha, Option.isSome_some, if_pos rfl, List.append_nil]
    exact h.setCache_of_entries_eq k rfl
  | none =>
    rcases hc : (s.caches k).compile a.tree s.supply with ⟨⟨r', d⟩, v⟩
    rw [Specification.compiledWith_of_memo_eq_none hm hc] at hout
    cases hout
    have hcode := (h.agrees hholds.mem_trees k).compile s.supply
    rw [hc] at hcode
    refine (h.compile hholds.mem_trees hc).replace ha (Specification.tree_remember r) fun p hp => ?_
    cases r with
    | ok q =>
      cases hp
      exact hcode.1.symm
    | error err => exact h.memo _ hholds p hp

end Sound

theorem Makes.makesTree {m : Fresh (Result (Specification S t))} (h : s.Makes m) : m.MakesTree := by
  cases h with
  | build f => exact Fresh.makesTree_build f
  | ofParts p body => exact Fresh.makesTree_ofParts p body
  | always => exact Fresh.makesTree_constant true
  | never => exact Fresh.makesTree_constant false
  | and | or | not => exact Fresh.makesTree_derive _ _
  | lift _ label _ map => exact Fresh.makesTree_lift _ label _ map

/-- One step keeps the invariants. -/
theorem Step.sound {es' : History} (hs : Step s es' s') (h : s.Sound es) : s'.Sound (es ++ es') := by
  cases hs with
  | @make t m a u hm hout =>
    rw [List.append_nil]
    -- The new tree has the next identity, and no tree that is held has it.
    rcases hm.makesTree s.supply with ⟨err, herr, -⟩ | ⟨tree, hok, hid, hu⟩
    · rw [hout] at herr
      cases herr
    · rw [hout] at hok hu
      cases hok
      exact h.hold_new hid hu
  | @fail t m err u hm hout =>
    rw [List.append_nil]
    rcases hm.makesTree s.supply with ⟨err', -, hu⟩ | ⟨tree, hok, -⟩
    · rw [hout] at hu
      exact h.withSupply hu
    · rw [hout] at hok
      cases hok
  | copy ha =>
    rw [List.append_nil]
    exact h.hold_copy ha.mem_trees (h.memo _ ha)
  | copyTree ha =>
    rw [List.append_nil]
    exact h.hold_copy ha.mem_trees nofun
  | compile k ha hout => exact h.compile ha.mem_trees hout
  | compiledWith k ha hout => exact h.compiledWith ha hout
  | @compileNew t a ha =>
    rw [List.append_nil]
    refine h.withSupply ?_
    cases hf : a.tree.compile with
    | ok code => rw [Tree.compileNew_of_ok hf]
    | error err => rw [Tree.compileNew_of_error hf]
  | remove k id =>
    refine h.setCache k ((h.cached k).remove id) fun id' => ?_
    by_cases hid : id' = id
    · simp [hid]
    · simp [Cache.find?_remove_of_ne _ hid, Ne.symm hid]
  | clear k =>
    exact h.setCache k (Cache.StemsFrom.clear _ _) fun id => by simp
  | resetCounters k =>
    rw [List.append_nil]
    exact h.setCache_of_entries_eq k rfl

theorem Run.sound (h : Run es s) : s.Sound es := by
  induction h with
  | start => exact sound_start
  | step _ hs ih => exact hs.sound ih

/-! ### Coherence -/

/-- What asking a specification by way of caches gives, whatever was done before. Predicates are compared by the rows
that satisfy them. -/
structure Coherent (s : Session S) (es : History) : Prop where
  identified : Identified s.trees
  keyed : ∀ k, (s.caches k).Keyed
  /-- What is in a cache was compiled from the tree under whose identity it is kept, for rows of its type. -/
  entry : ∀ k, ∀ x ∈ (s.caches k).entries, ∃ y ∈ s.trees, y.2.id = x.1 ∧ x.2.IsOf y.2
  /-- A cache gives what the tree compiles to, and the errors that it does not compile with. -/
  compile : ∀ {t : S.Entity} {a : Specification S t}, s.Holds a → ∀ k u u',
    ((s.caches k).compile a.tree u).1.1.map Predicate.holds = (a.tree.compileNew u').1.map Predicate.holds
  /-- What does not compile is not kept. -/
  entries_of_error : ∀ {t : S.Entity} {a : Specification S t}, s.Holds a → ∀ k u err,
    ((s.caches k).compile a.tree u).1.1 = .error err →
      ((s.caches k).compile a.tree u).1.2.entries = (s.caches k).entries
  /-- So does a specification that may remember what it was compiled to, by way of any cache. -/
  compiledWith : ∀ {t : S.Entity} {a : Specification S t}, s.Holds a → ∀ k u u',
    (a.compiledWith (s.caches k) u).1.1.map Predicate.holds = (a.tree.compileNew u').1.map Predicate.holds
  /-- A cache has what was compiled by way of it and not removed since. -/
  contains : ∀ k id, (s.caches k).contains id = true ↔ Kept k id es
  get? : ∀ {t : S.Entity} {a : Specification S t}, s.Holds a → ∀ k,
    (∃ p, (s.caches k).get? a.tree = some p) ↔ Kept k a.tree.id es
  holds_get? : ∀ {t : S.Entity} {a : Specification S t}, s.Holds a → ∀ k u p,
    (s.caches k).get? a.tree = some p → (a.tree.compileNew u).1.map Predicate.holds = .ok p.holds
  /-- An entry is never over another type than its tree. -/
  ne_wrongEntity : ∀ {t : S.Entity} {a : Specification S t}, s.Holds a → ∀ k u id,
    ((s.caches k).compile a.tree u).1.1 ≠ .error (Cache.wrongEntity id) ∧
      (a.compiledWith (s.caches k) u).1.1 ≠ .error (Cache.wrongEntity id)

namespace Sound

variable {a : Specification S t}

theorem serves (h : s.Sound es) (ha : s.Holds a) (k : Nat) : (s.caches k).Serves a where
  memo := h.memo _ ha
  entry := h.agrees ha.mem_trees k

/-- A tree of which a cache has an entry is found in it. -/
theorem get?_iff_kept (h : s.Sound es) (ha : s.Holds a) (k : Nat) :
    (∃ p, (s.caches k).get? a.tree = some p) ↔ Kept k a.tree.id es := by
  rw [← h.kept, Option.isSome_iff_exists]
  constructor
  · rintro ⟨p, hp⟩
    obtain ⟨e, he, -⟩ := Option.bind_eq_some_iff.mp hp
    exact ⟨e, he⟩
  · rintro ⟨e, he⟩
    obtain ⟨p, -, rfl⟩ := ((h.cached k).isOf h.identified ha.mem_trees he).as?
    exact ⟨p, Cache.get?_of_find? he⟩

end Sound

/-- Whatever was done, caches are coherent. -/
theorem run_coherent (h : Run es s) : s.Coherent es := by
  have hs := h.sound
  constructor
  case identified => exact hs.identified
  case keyed => exact fun k => (hs.cached k).keyed
  case entry =>
    rintro k ⟨id, e⟩ hmem
    exact (hs.cached k).entry id e ((hs.cached k).keyed.find?_eq_some_iff.mpr hmem)
  case compile =>
    intro t a ha k u u'
    exact Tree.map_holds_eq_compileNew ((hs.agrees ha.mem_trees k).compile u).1 u'
  case entries_of_error =>
    intro t a ha k u err herr
    exact (hs.agrees ha.mem_trees k).entries_of_compile_eq_error herr
  case compiledWith =>
    intro t a ha k u u'
    exact Tree.map_holds_eq_compileNew ((hs.serves ha k).compiledWith u).1 u'
  case contains => exact hs.kept
  case get? => exact fun ha k => hs.get?_iff_kept ha k
  case holds_get? =>
    intro t a ha k u p hp
    have hcode := (hs.agrees ha.mem_trees k).of_get? hp
    exact (Tree.map_holds_eq_compileNew (r := .ok p) hcode.symm u).symm
  case ne_wrongEntity =>
    intro t a ha k u id
    exact ⟨a.tree.ne_wrongEntity ((hs.agrees ha.mem_trees k).compile u).1 id,
      a.tree.ne_wrongEntity ((hs.serves ha k).compiledWith u).1 id⟩

/-- Adults are asked for by way of two caches, of which one is cleared. It has nothing then, the other one has the
predicate still, and a copy of the specification remembers it. -/
theorem run_coherent_adult : ∃ s : Session People.schema,
    Run [(0, .compiled 0), (1, .compiled 0), (0, .cleared)] s ∧
      s.Coherent [(0, .compiled 0), (1, .compiled 0), (0, .cleared)] ∧
      (∃ a : Specification People.schema People.person, s.Holds a ∧ a.memo.isSome = true) ∧
      (s.caches 0).contains 0 = false ∧ (s.caches 1).contains 0 = true := by
  have hstart : Run (S := People.schema) [] {} := .start
  have hmade := hstart.step (.make (.ofParts (t := People.person) People.x People.adult.tree.body) rfl)
  have hcompiled := hmade.step (.compile 0 (a := People.adult) List.mem_cons_self rfl)
  have hcopied := hcompiled.step (.copy (a := People.adult) List.mem_cons_self)
  have hremembered := hcopied.step (.compiledWith 1 (List.nil_append _).symm rfl)
  have hcleared := hremembered.step (.clear 0)
  exact ⟨_, hcleared, run_coherent hcleared, ⟨_, List.mem_cons_self, rfl⟩, rfl, rfl⟩

end Session

end EntityQuery

import EntityQuery.Proofs.Cache.Entries

/-!
# Compiling by way of a cache, step by step

A cache is shared, and what others do to it comes between the steps of a call. A call looks its tree up in one step and
counts what it found in another one. It compiles without the cache, counts that, and keeps what it compiled unless
something is kept by then, in one step again. It gives what is kept.

`Phase.step` is one step, and `Phase.Move` says all that a step may do. The steps of a call that nothing comes between
are `Cache.compile` (`Phase.steps_probing`).
-/

namespace EntityQuery

variable {S : Schema} {t : S.Entity}

/-- How far a call is that compiles a tree by way of a cache. -/
inductive Phase (S : Schema) (t : S.Entity) where
  | probing
  /-- The tree was found, which is not counted yet. -/
  | found (p : Predicate S t)
  /-- The tree was not found, which is not counted yet. -/
  | missed
  | compiling
  /-- The tree was compiled, which is not counted yet. -/
  | compiled (p : Predicate S t)
  | publishing (p : Predicate S t)
  /-- The call has given its result. It found the tree or did not. -/
  | done (hit : Bool) (r : Result (Predicate S t))

namespace Phase

/-- One step of a call. -/
def step (tree : Tree S t) (c : Cache S) : Phase S t → Fresh (Phase S t × Cache S)
  | .probing =>
    match c.get? tree with
    | some p => return (.found p, c)
    | none => return (.missed, c)
  | .found p => return (.done true (.ok p), c.countHit)
  | .missed => return (.compiling, c.countMiss)
  | .compiling => do
    match ← tree.compileNew with
    | .ok p => return (.compiled p, c)
    | .error err => return (.done false (.error err), c)
  | .compiled p => return (.publishing p, c.countCompilation)
  | .publishing p =>
    let (kept, c) := c.publish tree.id p.compiled
    return (.done false (tree.given kept), c)
  | .done hit r => return (.done hit r, c)

/-- Some steps of a call, one after the other. -/
def steps (tree : Tree S t) : Nat → Phase S t → Cache S → Fresh (Phase S t × Cache S)
  | 0, phase, c => return (phase, c)
  | n + 1, phase, c => do
    let (phase, c) ← phase.step tree c
    steps tree n phase c

variable {tree : Tree S t} {c : Cache S} {s : Supply}

/-! ### Single steps -/

theorem step_probing_of_some {p : Predicate S t} (h : c.get? tree = some p) :
    step tree c .probing s = ((.found p, c), s) := by
  simp only [step, h]
  rfl

theorem step_probing_of_none (h : c.get? tree = none) : step tree c .probing s = ((.missed, c), s) := by
  simp only [step, h]
  rfl

theorem step_found (p : Predicate S t) : step tree c (.found p) s = ((.done true (.ok p), c.countHit), s) := rfl

theorem step_missed : step tree c .missed s = ((.compiling, c.countMiss), s) := rfl

theorem step_compiling_of_error {err : QueryError} (h : tree.compile = .error err) :
    step tree c .compiling s = ((.done false (.error err), c), s) := by
  simp only [step, Fresh.bind_apply, Tree.compileNew_of_error h]
  rfl

theorem step_compiling_of_ok {code : ConditionCode S} (h : tree.compile = .ok code) :
    step tree c .compiling s =
      ((.compiled (.ofCode tree s.callables code), c), { s with callables := s.callables + 1 }) := by
  simp only [step, Fresh.bind_apply, Tree.compileNew_of_ok h]
  rfl

theorem step_compiled (p : Predicate S t) :
    step tree c (.compiled p) s = ((.publishing p, c.countCompilation), s) := rfl

theorem step_publishing (p : Predicate S t) :
    step tree c (.publishing p) s =
      ((.done false (tree.given (c.publish tree.id p.compiled).1), (c.publish tree.id p.compiled).2), s) := rfl

theorem step_done (hit : Bool) (r : Result (Predicate S t)) :
    step tree c (.done hit r) s = ((.done hit r, c), s) := rfl

/-! ### Calls alone -/

theorem steps_succ {phase phase' : Phase S t} {d : Cache S} {u : Supply}
    (h : phase.step tree c s = ((phase', d), u)) (n : Nat) :
    steps tree (n + 1) phase c s = steps tree n phase' d u := by
  rw [steps, Fresh.bind_apply, h]

theorem steps_done (n : Nat) (hit : Bool) (r : Result (Predicate S t)) :
    steps tree n (.done hit r) c s = ((.done hit r, c), s) := by
  induction n with
  | zero => rfl
  | succ n ih => exact (steps_succ (step_done hit r) n).trans ih

/-- A call that nothing comes between is done after five steps, and has done what `Cache.compile` does. -/
theorem steps_probing (tree : Tree S t) (c : Cache S) (s : Supply) :
    steps tree 5 .probing c s =
      ((.done (c.get? tree).isSome (c.compile tree s).1.1, (c.compile tree s).1.2), (c.compile tree s).2) := by
  cases hp : c.get? tree with
  | some p =>
    rw [Cache.compile_eq_of_get? hp, steps_succ (step_probing_of_some hp), steps_succ (step_found p), steps_done]
    rfl
  | none =>
    rw [steps_succ (step_probing_of_none hp), steps_succ step_missed]
    cases hf : tree.compile with
    | error err =>
      rw [Cache.compile_eq_of_error hp hf, steps_succ (step_compiling_of_error hf), steps_done]
      rfl
    | ok code =>
      rw [Cache.compile_eq_of_ok hp hf, steps_succ (step_compiling_of_ok hf),
        steps_succ (step_compiled _)]
      exact steps_succ (step_publishing _) 0

/-! ### All that a step may do -/

/-- What a step of a call does to the call and to the cache. -/
inductive Move (tree : Tree S t) (c : Cache S) : Phase S t → Phase S t → Cache S → Prop where
  | find {p : Predicate S t} (h : c.find? tree.id = some p.compiled) : Move tree c .probing (.found p) c
  | miss (h : c.find? tree.id = none) : Move tree c .probing .missed c
  | countHit (p : Predicate S t) : Move tree c (.found p) (.done true (.ok p)) c.countHit
  | countMiss : Move tree c .missed .compiling c.countMiss
  | compile {p : Predicate S t} (h : p.compiled.IsOf tree) : Move tree c .compiling (.compiled p) c
  | refuse {err : QueryError} (h : tree.compile = .error err) : Move tree c .compiling (.done false (.error err)) c
  | countCompilation (p : Predicate S t) : Move tree c (.compiled p) (.publishing p) c.countCompilation
  /-- What was compiled is kept. -/
  | publish (p : Predicate S t) (h : c.find? tree.id = none) :
    Move tree c (.publishing p) (.done false (.ok p)) (c.add tree.id p.compiled)
  /-- Another call was faster, and what that compiled is kept. -/
  | yield (p : Predicate S t) {q : Predicate S t} (h : c.find? tree.id = some q.compiled) :
    Move tree c (.publishing p) (.done false (.ok q)) c
  | rest (hit : Bool) (r : Result (Predicate S t)) : Move tree c (.done hit r) (.done hit r) c

/-- A call that does not find an entry over another type than its tree does nothing else. -/
theorem move_step (h : c.Agrees tree) (phase : Phase S t) (s : Supply) :
    Move tree c phase (phase.step tree c s).1.1 (phase.step tree c s).1.2 := by
  cases phase with
  | probing =>
    cases hp : c.get? tree with
    | some p =>
      rw [step_probing_of_some hp]
      exact .find (Cache.find?_of_get? hp)
    | none =>
      rw [step_probing_of_none hp]
      exact .miss (h.find?_eq_none hp)
  | found p => exact .countHit p
  | missed => exact .countMiss
  | compiling =>
    cases hf : tree.compile with
    | ok code =>
      rw [step_compiling_of_ok hf]
      exact .compile (Predicate.ofCode_isOf hf _)
    | error err =>
      rw [step_compiling_of_error hf]
      exact .refuse hf
  | compiled p => exact .countCompilation p
  | publishing p =>
    rw [step_publishing]
    cases hn : c.find? tree.id with
    | none =>
      rw [Cache.publish_of_find?_eq_none hn, Tree.given_compiled]
      exact .publish p hn
    | some e =>
      let q : Predicate S t := ⟨e, (h e hn).1⟩
      rw [Cache.publish_of_find? p.compiled hn, tree.given_compiled q]
      exact .yield p hn
  | done hit r => exact .rest hit r

/-! ### How far a call is -/

/-- The call was counted as one that found its tree. -/
def hit : Phase S t → Bool
  | .done hit _ => hit
  | _ => false

/-- The call was counted as one that did not find its tree. -/
def miss : Phase S t → Bool
  | .compiling | .compiled _ | .publishing _ => true
  | .done hit _ => !hit
  | _ => false

/-- The call was counted as one that compiled its tree. -/
def compilation : Phase S t → Bool
  | .publishing _ => true
  | .done hit (.ok _) => !hit
  | _ => false

/-- Whether a call has returned. -/
def isDone : Phase S t → Bool
  | .done _ _ => true
  | _ => false

/-- How many steps are left at most. -/
def remaining : Phase S t → Nat
  | .probing => 5
  | .missed => 4
  | .compiling => 3
  | .compiled _ => 2
  | .found _ | .publishing _ => 1
  | .done _ _ => 0

theorem isDone_iff_remaining {phase : Phase S t} : phase.isDone = true ↔ phase.remaining = 0 := by
  cases phase <;> simp [isDone, remaining]

theorem miss_eq_not_hit {phase : Phase S t} (h : phase.isDone = true) : phase.miss = !phase.hit := by
  cases phase with
  | done hit r => rfl
  | _ => cases h

/-- What a call knows is true: what it found is in the cache and so is what it gives, and what it compiled itself is
of its tree. Only a call that did not find its tree fails. -/
def Sound (tree : Tree S t) (c : Cache S) : Phase S t → Prop
  | .probing | .missed | .compiling => True
  | .found p => c.find? tree.id = some p.compiled
  | .compiled p | .publishing p => p.compiled.IsOf tree
  | .done _ (.ok p) => c.find? tree.id = some p.compiled
  | .done hit (.error err) => hit = false ∧ tree.compile = .error err

theorem Sound.mono {phase : Phase S t} (h : phase.Sound tree c) {d : Cache S}
    (hmono : ∀ id e, c.find? id = some e → d.find? id = some e) : phase.Sound tree d := by
  cases phase with
  | probing | missed | compiling => trivial
  | found p => exact hmono _ _ h
  | compiled p | publishing p => exact h
  | done hit r =>
    cases r with
    | ok p => exact hmono _ _ h
    | error err => exact h

/-- The call gives the entry, or will do so and is counted as one that found its tree. -/
def Finds (e : Compiled S) : Phase S t → Prop
  | .probing => True
  | .found p => p.compiled = e
  | .done hit (.ok p) => hit = true ∧ p.compiled = e
  | _ => False

namespace Move

variable {phase phase' : Phase S t} {d : Cache S}

/-- What is in a cache is not touched. -/
theorem find?_mono (h : Move tree c phase phase' d) {id : Nat} {e : Compiled S} (he : c.find? id = some e) :
    d.find? id = some e := by
  cases h with
  | publish p hn =>
    have hne : id ≠ tree.id := by
      rintro rfl
      rw [hn] at he
      cases he
    rw [Cache.find?_add hn, if_neg hne]
    exact he
  | _ => exact he

theorem sound (h : Move tree c phase phase' d) (hs : phase.Sound tree c) : phase'.Sound tree d := by
  cases h with
  | find hfind => exact hfind
  | miss => trivial
  | countHit p => exact hs
  | countMiss => trivial
  | compile hp => exact hp
  | refuse hf => exact ⟨rfl, hf⟩
  | countCompilation p => exact hs
  | publish p hn => exact (Cache.find?_add hn p.compiled tree.id).trans (if_pos rfl)
  | yield p hfind => exact hfind
  | rest hit r => exact hs

theorem stemsFrom (h : Move tree c phase phase' d) (hs : phase.Sound tree c) {trees : List (AnyTree S)}
    (htree : ⟨t, tree⟩ ∈ trees) (hc : c.StemsFrom trees) : d.StemsFrom trees := by
  cases h with
  | publish p hn => exact hc.add htree hn hs
  | _ => exact hc.of_entries_eq rfl

/-! Every counter counts the calls that were counted. -/

theorem hits (h : Move tree c phase phase' d) : d.hits + phase.hit.toNat = c.hits + phase'.hit.toNat := by
  cases h <;> rfl

theorem misses (h : Move tree c phase phase' d) : d.misses + phase.miss.toNat = c.misses + phase'.miss.toNat := by
  cases h <;> rfl

theorem compilations (h : Move tree c phase phase' d) :
    d.compilations + phase.compilation.toNat = c.compilations + phase'.compilation.toNat := by
  cases h <;> rfl

/-- No step waits for another call. -/
theorem remaining_le (h : Move tree c phase phase' d) : phase'.remaining ≤ phase.remaining - 1 := by
  cases h <;> simp [remaining]

/-- A call whose tree is in the cache finds it. -/
theorem finds (h : Move tree c phase phase' d) {e : Compiled S} (he : c.find? tree.id = some e)
    (hf : phase.Finds e) : phase'.Finds e := by
  cases h with
  | find hfind => exact Option.some.inj (hfind.symm.trans he)
  | miss hn =>
    rw [hn] at he
    cases he
  | countHit p => exact ⟨rfl, hf⟩
  | rest hit r => exact hf
  | _ => cases hf

end Move

end Phase

end EntityQuery

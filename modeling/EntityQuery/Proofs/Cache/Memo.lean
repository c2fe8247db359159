import EntityQuery.Proofs.Cache.Call
import EntityQuery.Proofs.People
import Mathlib.Logic.Function.Basic

/-!
# Calls that share a specification

A specification may be shared as well, and asked for its predicate by way of caches that have different ones. A call
reads what the specification remembers. If that is nothing, it compiles the tree by way of its cache, and sets what the
specification remembers unless that was set by then, in one step. It gives what is remembered.

Calls take turns in any order, and other things happen to the caches meanwhile (`Sharing.run`). All calls that succeed
give the one predicate that the specification remembers from then on, and calls that begin later leave the caches alone
(`Sharing.sharing_coherent`). The steps of a call that nothing comes between are `Specification.compiledWith`
(`Asking.steps_reading`).
-/

namespace EntityQuery

variable {S : Schema} {t : S.Entity}

/-- How far a call is that asks a specification for its predicate. -/
inductive Asking (S : Schema) (t : S.Entity) where
  | reading
  /-- The specification remembered nothing, and the tree is compiled by way of a cache. -/
  | obtaining (phase : Phase S t)
  | setting (p : Predicate S t)
  | done (r : Result (Predicate S t))

namespace Asking

/-- One step of a call. -/
def step (a : Specification S t) (c : Cache S) : Asking S t → Fresh (Asking S t × Specification S t × Cache S)
  | .reading =>
    match a.memo with
    | some p => return (.done (.ok p), a, c)
    | none => return (.obtaining .probing, a, c)
  | .obtaining (.done _ (.ok p)) => return (.setting p, a, c)
  | .obtaining (.done _ (.error err)) => return (.done (.error err), a, c)
  | .obtaining phase => do
    let (phase, c) ← phase.step a.tree c
    return (.obtaining phase, a, c)
  | .setting p =>
    match a.memo with
    | some q => return (.done (.ok q), a, c)
    | none => return (.done (.ok p), { a with memo := some p }, c)
  | .done r => return (.done r, a, c)

/-- Some steps of a call, one after the other. -/
def steps : Nat → Asking S t → Specification S t → Cache S → Fresh (Asking S t × Specification S t × Cache S)
  | 0, asking, a, c => return (asking, a, c)
  | n + 1, asking, a, c => do
    let (asking, a, c) ← asking.step a c
    steps n asking a c

variable {a : Specification S t} {c : Cache S} {s : Supply}

/-! ### Single steps -/

theorem step_reading_of_some {p : Predicate S t} (h : a.memo = some p) :
    step a c .reading s = ((.done (.ok p), a, c), s) := by
  simp only [step, h]
  rfl

theorem step_reading_of_none (h : a.memo = none) : step a c .reading s = ((.obtaining .probing, a, c), s) := by
  simp only [step, h]
  rfl

theorem step_obtaining {phase : Phase S t} (h : phase.isDone = false) :
    step a c (.obtaining phase) s =
      ((.obtaining (phase.step a.tree c s).1.1, a, (phase.step a.tree c s).1.2), (phase.step a.tree c s).2) := by
  cases phase with
  | done hit r => cases h
  | _ => rfl

theorem step_setting_of_some {q : Predicate S t} (h : a.memo = some q) (p : Predicate S t) :
    step a c (.setting p) s = ((.done (.ok q), a, c), s) := by
  simp only [step, h]
  rfl

theorem step_setting_of_none (h : a.memo = none) (p : Predicate S t) :
    step a c (.setting p) s = ((.done (.ok p), { a with memo := some p }, c), s) := by
  simp only [step, h]
  rfl

/-! ### Calls alone -/

theorem steps_succ {asking asking' : Asking S t} {b : Specification S t} {d : Cache S} {u : Supply}
    (h : asking.step a c s = ((asking', b, d), u)) (n : Nat) :
    steps (n + 1) asking a c s = steps n asking' b d u := by
  rw [steps, Fresh.bind_apply, h]

theorem steps_done (n : Nat) (r : Result (Predicate S t)) : steps n (.done r) a c s = ((.done r, a, c), s) := by
  induction n with
  | zero => rfl
  | succ n ih => exact (steps_succ rfl n).trans ih

/-- What was obtained is remembered. -/
theorem steps_obtained (h : a.memo = none) (n : Nat) (hit : Bool) (r : Result (Predicate S t)) :
    steps (n + 2) (.obtaining (.done hit r)) a c s = ((.done r, a.remember r, c), s) := by
  cases r with
  | ok p =>
    have hobtained : step a c (.obtaining (.done hit (.ok p))) s = ((.setting p, a, c), s) := rfl
    rw [steps_succ hobtained, steps_succ (step_setting_of_none h p), steps_done]
    rfl
  | error err =>
    have hfailed : step a c (.obtaining (.done hit (.error err))) s = ((.done (.error err), a, c), s) := rfl
    rw [steps_succ hfailed, steps_done]
    rfl

theorem steps_obtaining (h : a.memo = none) {n : Nat} {phase : Phase S t} {hit : Bool} {r : Result (Predicate S t)}
    {d : Cache S} {u : Supply} (hphase : Phase.steps a.tree n phase c s = ((.done hit r, d), u)) :
    steps (n + 2) (.obtaining phase) a c s = ((.done r, a.remember r, d), u) := by
  induction n generalizing phase c s with
  | zero =>
    cases hphase
    exact steps_obtained h 0 hit r
  | succ n ih =>
    cases hdone : phase.isDone with
    | false =>
      rw [steps_succ (step_obtaining hdone)]
      exact ih hphase
    | true =>
      cases phase with
      | done hit' r' =>
        rw [Phase.steps_done] at hphase
        cases hphase
        exact steps_obtained h (n + 1) hit r
      | _ => cases hdone

/-- A call that nothing comes between is done after eight steps, and has done what `Specification.compiledWith`
does. -/
theorem steps_reading (a : Specification S t) (c : Cache S) (s : Supply) :
    steps 8 .reading a c s =
      ((.done (a.compiledWith c s).1.1, (a.compiledWith c s).1.2), (a.compiledWith c s).2) := by
  cases hm : a.memo with
  | some p =>
    rw [Specification.compiledWith_of_memo hm, steps_succ (step_reading_of_some hm), steps_done]
  | none =>
    have hphase := Phase.steps_probing a.tree c s
    rcases hc : c.compile a.tree s with ⟨⟨r, d⟩, u⟩
    rw [hc] at hphase
    rw [Specification.compiledWith_of_memo_eq_none hm hc, steps_succ (step_reading_of_none hm)]
    exact steps_obtaining hm hphase

/-! ### All that a step may do -/

/-- What a step of a call does to the call, to the specification and to the cache. -/
inductive Move (a : Specification S t) (c : Cache S) :
    Asking S t → Asking S t → Specification S t → Cache S → Prop where
  | remembered {p : Predicate S t} (h : a.memo = some p) : Move a c .reading (.done (.ok p)) a c
  | begin (h : a.memo = none) : Move a c .reading (.obtaining .probing) a c
  | obtain (phase phase' : Phase S t) (d : Cache S) : Move a c (.obtaining phase) (.obtaining phase') a d
  | obtained (hit : Bool) (p : Predicate S t) : Move a c (.obtaining (.done hit (.ok p))) (.setting p) a c
  | fail (hit : Bool) (err : QueryError) : Move a c (.obtaining (.done hit (.error err))) (.done (.error err)) a c
  | set (p : Predicate S t) (h : a.memo = none) : Move a c (.setting p) (.done (.ok p)) { a with memo := some p } c
  /-- Another call was faster, and what that has set is remembered. -/
  | yield (p : Predicate S t) {q : Predicate S t} (h : a.memo = some q) : Move a c (.setting p) (.done (.ok q)) a c
  | rest (r : Result (Predicate S t)) : Move a c (.done r) (.done r) a c

theorem move_step (asking : Asking S t) (a : Specification S t) (c : Cache S) (s : Supply) :
    Move a c asking (asking.step a c s).1.1 (asking.step a c s).1.2.1 (asking.step a c s).1.2.2 := by
  cases asking with
  | reading =>
    cases hm : a.memo with
    | some p =>
      rw [step_reading_of_some hm]
      exact .remembered hm
    | none =>
      rw [step_reading_of_none hm]
      exact .begin hm
  | obtaining phase =>
    cases hdone : phase.isDone with
    | false =>
      rw [step_obtaining hdone]
      exact .obtain _ _ _
    | true =>
      cases phase with
      | done hit r =>
        cases r with
        | ok p => exact .obtained hit p
        | error err => exact .fail hit err
      | _ => cases hdone
  | setting p =>
    cases hm : a.memo with
    | some q =>
      rw [step_setting_of_some hm]
      exact .yield p hm
    | none =>
      rw [step_setting_of_none hm]
      exact .set p hm
  | done r => exact .rest r

/-- A call that succeeded gave what the specification remembers. -/
def Sound (a : Specification S t) : Asking S t → Prop
  | .done (.ok p) => a.memo = some p
  | _ => True

/-- The call has given the predicate, or has not begun. -/
def Recalls (p : Predicate S t) : Asking S t → Prop
  | .reading => True
  | .done r => r = .ok p
  | _ => False

theorem Sound.mono {asking : Asking S t} (h : asking.Sound a) {b : Specification S t}
    (hmono : ∀ p, a.memo = some p → b.memo = some p) : asking.Sound b := by
  cases asking with
  | done r =>
    cases r with
    | ok p => exact hmono p h
    | error err => trivial
  | _ => trivial

namespace Move

variable {asking asking' : Asking S t} {b : Specification S t} {d : Cache S}

/-- What is remembered is not touched. -/
theorem memo_mono (h : Move a c asking asking' b d) {p : Predicate S t} (hp : a.memo = some p) : b.memo = some p := by
  cases h with
  | set q hm =>
    rw [hm] at hp
    cases hp
  | _ => exact hp

theorem sound (h : Move a c asking asking' b d) (hs : asking.Sound a) : asking'.Sound b := by
  cases h with
  | remembered hm => exact hm
  | set p hm => rfl
  | yield p hm => exact hm
  | rest r => exact hs
  | _ => trivial

/-- Nothing is done to a cache for what is remembered. -/
theorem recalls (h : Move a c asking asking' b d) {p : Predicate S t} (hp : a.memo = some p)
    (hr : asking.Recalls p) : asking'.Recalls p ∧ d = c := by
  cases h with
  | remembered hm => exact ⟨congrArg Except.ok (Option.some.inj (hm.symm.trans hp)), rfl⟩
  | begin hm =>
    rw [hm] at hp
    cases hp
  | rest r => exact ⟨hr, rfl⟩
  | _ => cases hr

end Move

end Asking

/-! ### Sharing a specification -/

/-- Calls that ask one specification by way of caches, which are told apart by numbers. -/
structure Sharing (S : Schema) (t : S.Entity) where
  supply : Supply
  specification : Specification S t
  caches : Nat → Cache S
  /-- How far each call is, after the number of its cache. -/
  calls : List (Nat × Asking S t)

/-- What happens where a specification is shared. -/
inductive Happening (S : Schema) where
  /-- It is the turn of one of the calls, which takes a step. -/
  | turn (i : Nat)
  /-- Something else is compiled by way of a cache. -/
  | compile (k : Nat) (x : AnyTree S)
  | remove (k id : Nat)
  | clear (k : Nat)
  | resetCounters (k : Nat)

namespace Sharing

/-- No call has begun. What the specification remembers and what is in the caches may be anything. -/
def start (s : Supply) (a : Specification S t) (caches : Nat → Cache S) (ks : List Nat) : Sharing S t where
  supply := s
  specification := a
  caches := caches
  calls := ks.map fun k => (k, .reading)

/-- Another cache of a number. -/
def setCache (r : Sharing S t) (k : Nat) (c : Cache S) : Sharing S t :=
  { r with caches := Function.update r.caches k c }

/-- What follows when something happens. -/
def next (r : Sharing S t) : Happening S → Sharing S t
  | .turn i =>
    match r.calls[i]? with
    | none => r
    | some (k, asking) =>
      let ((asking, specification, cache), supply) := asking.step r.specification (r.caches k) r.supply
      { supply, specification, caches := Function.update r.caches k cache, calls := r.calls.set i (k, asking) }
  | .compile k x =>
    let ((_, cache), supply) := (r.caches k).compile x.2 r.supply
    { r with supply, caches := Function.update r.caches k cache }
  | .remove k id => r.setCache k ((r.caches k).remove id).2
  | .clear k => r.setCache k (r.caches k).clear
  | .resetCounters k => r.setCache k (r.caches k).resetCounters

/-- All that happens, one after the other. -/
def run (r : Sharing S t) (happenings : List (Happening S)) : Sharing S t := happenings.foldl next r

variable {r : Sharing S t}

theorem run_append (r : Sharing S t) (happenings more : List (Happening S)) :
    r.run (happenings ++ more) = (r.run happenings).run more := List.foldl_append

theorem next_turn {i k : Nat} {asking : Asking S t} (h : r.calls[i]? = some (k, asking)) :
    r.next (.turn i) =
      { supply := (asking.step r.specification (r.caches k) r.supply).2
        specification := (asking.step r.specification (r.caches k) r.supply).1.2.1
        caches := Function.update r.caches k (asking.step r.specification (r.caches k) r.supply).1.2.2
        calls := r.calls.set i (k, (asking.step r.specification (r.caches k) r.supply).1.1) } := by
  simp only [next, h]
  rfl

/-- What happens: neither to the specification nor to a call, or one call moves. -/
theorem next_cases (r : Sharing S t) (x : Happening S) :
    (r.next x).specification = r.specification ∧ (r.next x).calls = r.calls ∨
      ∃ i k asking asking' b d u, x = .turn i ∧ r.calls[i]? = some (k, asking) ∧
        Asking.Move r.specification (r.caches k) asking asking' b d ∧
          r.next x = ⟨u, b, Function.update r.caches k d, r.calls.set i (k, asking')⟩ := by
  cases x with
  | turn i =>
    cases hcall : r.calls[i]? with
    | none =>
      refine .inl ?_
      simp only [next, hcall]
      exact ⟨trivial, trivial⟩
    | some call =>
      obtain ⟨k, asking⟩ := call
      exact .inr ⟨i, k, asking, _, _, _, _, rfl, hcall, asking.move_step _ _ _, next_turn hcall⟩
  | compile | remove | clear | resetCounters => exact .inl ⟨rfl, rfl⟩

/-- What is kept by everything that happens holds after all of it. -/
theorem run_induction {P : Sharing S t → Prop} (hnext : ∀ r x, P r → P (r.next x)) (h : P r)
    (happenings : List (Happening S)) : P (r.run happenings) := by
  induction happenings generalizing r with
  | nil => exact h
  | cons x happenings ih => exact ih (hnext r x h)

/-- Calls that succeeded gave what the specification remembers. -/
def Sound (r : Sharing S t) : Prop := ∀ x ∈ r.calls, x.2.Sound r.specification

theorem sound_start (s : Supply) (a : Specification S t) (caches : Nat → Cache S) (ks : List Nat) :
    (start s a caches ks).Sound := by
  intro x hx
  obtain ⟨k, -, rfl⟩ := List.mem_map.mp hx
  trivial

theorem Sound.next (h : r.Sound) (x : Happening S) : (r.next x).Sound := by
  obtain ⟨hspecification, hcalls⟩ | ⟨i, k, asking, asking', b, d, u, -, hcall, hmove, hr⟩ := r.next_cases x
  · unfold Sound
    rw [hspecification, hcalls]
    exact h
  · rw [hr]
    intro y hy
    rcases List.mem_or_eq_of_mem_set hy with hy | rfl
    · exact (h y hy).mono fun _ => hmove.memo_mono
    · exact hmove.sound (h _ (List.mem_of_getElem? hcall))

theorem memo_next {p : Predicate S t} (h : r.specification.memo = some p) (x : Happening S) :
    (r.next x).specification.memo = some p := by
  obtain ⟨hspecification, -⟩ | ⟨i, k, asking, asking', b, d, u, -, -, hmove, hr⟩ := r.next_cases x
  · rw [hspecification]
    exact h
  · rw [hr]
    exact hmove.memo_mono h

/-- The call has given the predicate that is remembered, or has not begun. -/
def Recalls (r : Sharing S t) (i k : Nat) (p : Predicate S t) : Prop :=
  r.specification.memo = some p ∧ ∃ asking, r.calls[i]? = some (k, asking) ∧ asking.Recalls p

theorem Recalls.next {i k : Nat} {p : Predicate S t} (h : r.Recalls i k p) (x : Happening S) :
    (r.next x).Recalls i k p := by
  obtain ⟨hmemo, asking, hasking, hrecalls⟩ := h
  refine ⟨memo_next hmemo x, ?_⟩
  obtain ⟨-, hcalls⟩ | ⟨j, k', other, other', b, d, u, -, hother, hmove, hr⟩ := r.next_cases x
  · rw [hcalls]
    exact ⟨asking, hasking, hrecalls⟩
  · rw [hr]
    by_cases hij : j = i
    · subst hij
      cases hother.symm.trans hasking
      have hset := List.getElem?_set_self (a := (k, other')) (List.getElem?_eq_some_iff.mp hasking).1
      exact ⟨other', hset, (hmove.recalls hmemo hrecalls).1⟩
    · exact ⟨asking, (List.getElem?_set_ne hij).trans hasking, hrecalls⟩

/-- The turns of such a call leave the caches alone. -/
theorem Recalls.caches_next {i k : Nat} {p : Predicate S t} (h : r.Recalls i k p) :
    (r.next (.turn i)).caches = r.caches := by
  obtain ⟨hmemo, asking, hasking, hrecalls⟩ := h
  rw [next_turn hasking, ((asking.move_step _ _ _).recalls hmemo hrecalls).2]
  exact Function.update_eq_self k r.caches

/-! ### Coherence -/

/-- What calls that share a specification come to, where one state is later than the other one. -/
structure Coherent (r later : Sharing S t) : Prop where
  /-- What a call gives is what the specification remembers. -/
  remembered : ∀ x ∈ later.calls, ∀ p, x.2 = .done (.ok p) → later.specification.memo = some p
  /-- All calls that succeed give one predicate, and so one callable. -/
  same : ∀ x ∈ later.calls, ∀ y ∈ later.calls, ∀ p q, x.2 = .done (.ok p) → y.2 = .done (.ok q) → p = q
  /-- What is remembered stays what it is. -/
  memo : ∀ p, r.specification.memo = some p → later.specification.memo = some p
  /-- A call that has not begun when something is remembered never does anything to a cache. -/
  caches : ∀ (i k : Nat) (p : Predicate S t), r.calls[i]? = some (k, .reading) → r.specification.memo = some p →
    (later.next (.turn i)).caches = later.caches
  /-- It gives what is remembered. -/
  recalled : ∀ (i k : Nat) (p : Predicate S t), r.calls[i]? = some (k, .reading) → r.specification.memo = some p →
    ∀ (k' : Nat) (res : Result (Predicate S t)), later.calls[i]? = some (k', .done res) → k' = k ∧ res = .ok p

/-- Calls that ask one specification are coherent, by way of whichever caches and whatever happens to these. -/
theorem sharing_coherent (s : Supply) (a : Specification S t) (caches : Nat → Cache S) (ks : List Nat)
    (happenings more : List (Happening S)) :
    Coherent ((start s a caches ks).run happenings) ((start s a caches ks).run (happenings ++ more)) := by
  have hlater : ((start s a caches ks).run (happenings ++ more)).Sound :=
    run_induction (fun _ x h => h.next x) (sound_start s a caches ks) _
  have hremembered : ∀ x ∈ ((start s a caches ks).run (happenings ++ more)).calls, ∀ p, x.2 = .done (.ok p) →
      ((start s a caches ks).run (happenings ++ more)).specification.memo = some p := by
    intro x hx p hp
    have hsound := hlater x hx
    rw [hp] at hsound
    exact hsound
  have hrecalls : ∀ (i k : Nat) (p : Predicate S t),
      ((start s a caches ks).run happenings).calls[i]? = some (k, .reading) →
      ((start s a caches ks).run happenings).specification.memo = some p →
        ((start s a caches ks).run (happenings ++ more)).Recalls i k p := by
    intro i k p hcall hmemo
    rw [run_append]
    have hstart : ((start s a caches ks).run happenings).Recalls i k p := ⟨hmemo, .reading, hcall, trivial⟩
    exact run_induction (P := fun r => r.Recalls i k p) (fun _ x h => h.next x) hstart more
  constructor
  case remembered => exact hremembered
  case same =>
    intro x hx y hy p q hp hq
    exact Option.some.inj ((hremembered x hx p hp).symm.trans (hremembered y hy q hq))
  case memo =>
    intro p hp
    rw [run_append]
    exact run_induction (P := fun r => r.specification.memo = some p) (fun _ x h => memo_next h x) hp more
  case caches => exact fun i k p hcall hmemo => (hrecalls i k p hcall hmemo).caches_next
  case recalled =>
    intro i k p hcall hmemo k' res hdone
    obtain ⟨-, asking, hasking, hrecall⟩ := hrecalls i k p hcall hmemo
    cases hasking.symm.trans hdone
    exact ⟨rfl, hrecall⟩

/-- The callable that a call has given, or is about to set. -/
def callable? : Asking S t → Option Nat
  | .setting p | .done (.ok p) => some p.compiled.callable
  | _ => none

/-- Two calls compile the tree of adults by way of two caches. The second one sets its callable first, and the first
one, whose cache is cleared meanwhile, gives that as well. So does a third call, which begins after that. -/
theorem sharing_coherent_adult : ∃ (r later : Sharing People.schema People.person),
    r.Coherent later ∧ r.calls.map (fun x => callable? x.2) = [some 0, some 1, none] ∧
      r.specification.memo.isSome = true ∧ later.calls.map (fun x => callable? x.2) = [some 1, some 1, some 1] := by
  let both : List (Happening People.schema) := [.turn 0, .turn 1]
  refine ⟨_, _, sharing_coherent {} People.adult (fun _ => .empty) [0, 1, 1]
    (both ++ both ++ both ++ both ++ both ++ both ++ both ++ [.clear 0, .turn 1]) [.turn 0, .turn 2], ?_, ?_, ?_⟩
  all_goals decide +kernel

end Sharing

end EntityQuery

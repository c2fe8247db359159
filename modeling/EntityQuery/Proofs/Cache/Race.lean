import EntityQuery.Proofs.Cache.Call
import EntityQuery.Proofs.People

/-!
# Calls that share a cache

Calls that compile trees by way of one cache take turns in any order, one step a turn (`Race.run`). They may be made by
as many threads; one thread that makes several calls finishes each before it begins with the next, which is one of the
orders. The trees are told apart by their identities, as all that a session holds (`Session.Coherent.identified`).

Whatever the order, an entry stays what it is, all calls for a tree give what its entry has, and each call is counted as
what it was (`Race.Sound`, `Race.race_coherent`). No call waits for another (`Race.isDone_run`).
-/

namespace EntityQuery

variable {S : Schema}

/-- A call that compiles a tree by way of a cache. -/
structure Call (S : Schema) where
  entity : S.Entity
  tree : Tree S entity
  phase : Phase S entity := .probing

/-- Calls that share a cache. -/
structure Race (S : Schema) where
  supply : Supply
  cache : Cache S := .empty
  calls : List (Call S)

namespace Race

/-- Nothing is in the cache, and no call has begun. -/
def start (s : Supply) (trees : List (AnyTree S)) : Race S where
  supply := s
  calls := trees.map fun x => ⟨x.1, x.2, .probing⟩

/-- It is the turn of one of the calls, which takes a step. -/
def turn (r : Race S) (i : Nat) : Race S :=
  match r.calls[i]? with
  | none => r
  | some a =>
    let ((phase, cache), supply) := a.phase.step a.tree r.cache r.supply
    { supply, cache, calls := r.calls.set i { a with phase } }

/-- The calls take turns. -/
def run (r : Race S) (turns : List Nat) : Race S := turns.foldl turn r

/-- The trees of the calls. -/
def trees (r : Race S) : List (AnyTree S) := r.calls.map fun a => ⟨a.entity, a.tree⟩

theorem mem_trees {r : Race S} {a : Call S} (ha : a ∈ r.calls) : ⟨a.entity, a.tree⟩ ∈ r.trees :=
  List.mem_map_of_mem ha

theorem run_append (r : Race S) (turns more : List Nat) : r.run (turns ++ more) = (r.run turns).run more :=
  List.foldl_append

theorem trees_start (s : Supply) (trees : List (AnyTree S)) : (start s trees).trees = trees :=
  List.map_map.trans (List.map_id trees)

/-! ### Invariants -/

/-- What is in the cache stems from the trees of the calls, and what the calls know is true. The counters count the
calls that were counted. -/
structure Sound (r : Race S) : Prop where
  identified : Identified r.trees
  cached : r.cache.StemsFrom r.trees
  phase : ∀ a ∈ r.calls, a.phase.Sound a.tree r.cache
  hits : r.cache.hits = r.calls.countP fun a => a.phase.hit
  misses : r.cache.misses = r.calls.countP fun a => a.phase.miss
  compilations : r.cache.compilations = r.calls.countP fun a => a.phase.compilation

theorem probing_of_mem_start {s : Supply} {trees : List (AnyTree S)} {a : Call S} (ha : a ∈ (start s trees).calls) :
    a.phase = .probing := by
  obtain ⟨x, -, rfl⟩ := List.mem_map.mp ha
  rfl

theorem sound_start (s : Supply) {trees : List (AnyTree S)} (h : Identified trees) : (start s trees).Sound := by
  have hcount : ∀ p : Call S → Bool, (∀ a : Call S, a.phase = .probing → p a = false) →
      0 = (start s trees).calls.countP p := by
    intro p hp
    refine (List.countP_eq_zero.mpr fun a ha => ?_).symm
    rw [hp a (probing_of_mem_start ha)]
    exact Bool.false_ne_true
  constructor
  case identified =>
    rw [trees_start]
    exact h
  case cached => exact Cache.stemsFrom_empty _
  case phase =>
    intro a ha
    rw [probing_of_mem_start ha]
    trivial
  case hits => exact hcount _ fun a ha => by rw [ha]; rfl
  case misses => exact hcount _ fun a ha => by rw [ha]; rfl
  case compilations => exact hcount _ fun a ha => by rw [ha]; rfl

/-- What a turn does: nothing, or one call moves. -/
theorem Sound.turn_cases {r : Race S} (h : r.Sound) (i : Nat) :
    r.calls[i]? = none ∧ r.turn i = r ∨
      ∃ a phase cache supply, r.calls[i]? = some a ∧ Phase.Move a.tree r.cache a.phase phase cache ∧
        r.turn i = ⟨supply, cache, r.calls.set i { a with phase }⟩ := by
  unfold turn
  cases ha : r.calls[i]? with
  | none => exact .inl ⟨rfl, rfl⟩
  | some a =>
    have hagrees := h.cached.agrees h.identified (mem_trees (List.mem_of_getElem? ha))
    exact .inr ⟨a, _, _, _, rfl, Phase.move_step hagrees a.phase r.supply, rfl⟩

/-! What a call is replaced by is a call for the same tree, and counts as what it is. -/

theorem trees_set {r : Race S} {i : Nat} {a : Call S} (ha : r.calls[i]? = some a) (phase : Phase S a.entity)
    (c : Cache S) (s : Supply) : (⟨s, c, r.calls.set i { a with phase }⟩ : Race S).trees = r.trees := by
  obtain ⟨hi, rfl⟩ := List.getElem?_eq_some_iff.mp ha
  obtain ⟨before, after, hcalls, -, hset⟩ := @List.exists_of_set _ i { r.calls[i] with phase } r.calls hi
  rw [trees, trees, hset, List.map_append, List.map_cons]
  conv_rhs => rw [hcalls, List.map_append, List.map_cons]

theorem countP_set_add {α : Type*} (p : α → Bool) {l : List α} {i : Nat} {a : α} (h : l[i]? = some a) (b : α) :
    (l.set i b).countP p + (p a).toNat = l.countP p + (p b).toNat := by
  obtain ⟨hi, rfl⟩ := List.getElem?_eq_some_iff.mp h
  obtain ⟨before, after, hl, -, hset⟩ := @List.exists_of_set _ i b l hi
  have hcount : l.countP p = before.countP p + ((p l[i]).toNat + after.countP p) := by
    conv_lhs => rw [hl, List.countP_append, List.countP_cons]
    cases p l[i] <;> simp [Nat.add_comm]
  have hcount' : (l.set i b).countP p = before.countP p + ((p b).toNat + after.countP p) := by
    rw [hset, List.countP_append, List.countP_cons]
    cases p b <;> simp [Nat.add_comm]
  omega

/-- A counter that counted the calls still does so if it goes along with the call that moves. -/
theorem eq_countP_set {p : Call S → Bool} {l : List (Call S)} {i n m : Nat} {a b : Call S} (ha : l[i]? = some a)
    (hn : n = l.countP p) (hm : m + (p a).toNat = n + (p b).toNat) : m = (l.set i b).countP p := by
  have hcount := countP_set_add p ha b
  omega

/-- One turn keeps the invariants. -/
theorem Sound.turn {r : Race S} (h : r.Sound) (i : Nat) : (r.turn i).Sound := by
  obtain ⟨-, hr⟩ | ⟨a, phase, cache, supply, ha, hmove, hr⟩ := h.turn_cases i
  · rw [hr]
    exact h
  have hmem := List.mem_of_getElem? ha
  have htrees := trees_set ha phase cache supply
  rw [hr]
  constructor
  case identified =>
    rw [htrees]
    exact h.identified
  case cached =>
    rw [htrees]
    exact hmove.stemsFrom (h.phase a hmem) (mem_trees hmem) h.cached
  case phase =>
    intro b hb
    rcases List.mem_or_eq_of_mem_set hb with hb | rfl
    -- What the other calls know stays true, as no entry goes away.
    · exact (h.phase b hb).mono fun _ _ => hmove.find?_mono
    · exact hmove.sound (h.phase a hmem)
  case hits => exact eq_countP_set ha h.hits hmove.hits
  case misses => exact eq_countP_set ha h.misses hmove.misses
  case compilations => exact eq_countP_set ha h.compilations hmove.compilations

/-- What every turn keeps holds after all turns. -/
theorem Sound.run_induction {P : Race S → Prop} (hturn : ∀ r : Race S, r.Sound → P r → ∀ i, P (r.turn i))
    {r : Race S} (h : r.Sound) (hP : P r) (turns : List Nat) : (r.run turns).Sound ∧ P (r.run turns) := by
  induction turns generalizing r with
  | nil => exact ⟨h, hP⟩
  | cons i turns ih => exact ih (h.turn i) (hturn r h hP i)

theorem Sound.run {r : Race S} (h : r.Sound) (turns : List Nat) : (r.run turns).Sound :=
  (h.run_induction (P := fun _ => True) (fun _ _ _ _ => trivial) trivial turns).1

/-! ### What calls give -/

theorem trees_run {r : Race S} (h : r.Sound) (turns : List Nat) : (r.run turns).trees = r.trees := by
  refine (h.run_induction (P := fun r' => r'.trees = r.trees) (fun r' hr' htrees i => ?_) rfl turns).2
  obtain ⟨-, hr⟩ | ⟨a, phase, cache, supply, ha, -, hr⟩ := hr'.turn_cases i
  · rw [hr, htrees]
  · rw [hr, trees_set ha, htrees]

/-- An entry stays what it is. -/
theorem find?_run {r : Race S} (h : r.Sound) {id : Nat} {e : Compiled S} (he : r.cache.find? id = some e)
    (turns : List Nat) : (r.run turns).cache.find? id = some e := by
  refine (h.run_induction (P := fun r' => r'.cache.find? id = some e) (fun r' hr' he' i => ?_) he turns).2
  obtain ⟨-, hr⟩ | ⟨a, phase, cache, supply, -, hmove, hr⟩ := hr'.turn_cases i
  · rw [hr]
    exact he'
  · rw [hr]
    exact hmove.find?_mono he'

/-- The tree of the call has the entry, and the call finds it or has not begun. -/
def Finds (r : Race S) (i : Nat) (e : Compiled S) : Prop :=
  ∃ a, r.calls[i]? = some a ∧ a.phase.Finds e ∧ r.cache.find? a.tree.id = some e

theorem Finds.turn {r : Race S} (hr : r.Sound) {i : Nat} {e : Compiled S} (h : r.Finds i e) (j : Nat) :
    (r.turn j).Finds i e := by
  obtain ⟨a, ha, hfinds, hfind⟩ := h
  obtain ⟨-, hturn⟩ | ⟨b, phase, cache, supply, hb, hmove, hturn⟩ := hr.turn_cases j
  · rw [hturn]
    exact ⟨a, ha, hfinds, hfind⟩
  · rw [hturn]
    by_cases hij : j = i
    · subst hij
      obtain rfl := Option.some.inj (hb.symm.trans ha)
      have hset := List.getElem?_set_self (a := { b with phase }) (List.getElem?_eq_some_iff.mp ha).1
      exact ⟨_, hset, hmove.finds hfind hfinds, hmove.find?_mono hfind⟩
    · exact ⟨a, (List.getElem?_set_ne hij).trans ha, hfinds, hmove.find?_mono hfind⟩

theorem Finds.run {r : Race S} (hr : r.Sound) {i : Nat} {e : Compiled S} (h : r.Finds i e) (turns : List Nat) :
    (r.run turns).Finds i e :=
  (hr.run_induction (P := fun r' => r'.Finds i e) (fun _ hr' h' => h'.turn hr') h turns).2

/-- A turn brings the call whose turn it is nearer to its end. -/
theorem remaining_turn {r : Race S} (h : r.Sound) {i j : Nat} {b : Call S} (hb : (r.turn j).calls[i]? = some b) :
    ∃ a, r.calls[i]? = some a ∧ b.phase.remaining ≤ a.phase.remaining - if j = i then 1 else 0 := by
  obtain ⟨hnone, hr⟩ | ⟨a, phase, cache, supply, ha, hmove, hr⟩ := h.turn_cases j
  · rw [hr] at hb
    refine ⟨b, hb, ?_⟩
    rw [if_neg]
    · exact Nat.le_refl _
    · rintro rfl
      rw [hnone] at hb
      cases hb
  · rw [hr] at hb
    by_cases hij : j = i
    · subst hij
      rw [List.getElem?_set_self (List.getElem?_eq_some_iff.mp ha).1] at hb
      obtain rfl := Option.some.inj hb
      rw [if_pos rfl]
      exact ⟨a, ha, hmove.remaining_le⟩
    · rw [List.getElem?_set_ne hij] at hb
      exact ⟨b, hb, by rw [if_neg hij]; exact Nat.le_refl _⟩

theorem remaining_run {r : Race S} (h : r.Sound) {i : Nat} {turns : List Nat} {b : Call S}
    (hb : (r.run turns).calls[i]? = some b) :
    ∃ a, r.calls[i]? = some a ∧ b.phase.remaining ≤ a.phase.remaining - turns.count i := by
  induction turns generalizing r with
  | nil => exact ⟨b, hb, Nat.le_refl _⟩
  | cons j turns ih =>
    obtain ⟨c, hc, hrest⟩ := ih (h.turn j) hb
    obtain ⟨a, ha, hfirst⟩ := remaining_turn h hc
    refine ⟨a, ha, ?_⟩
    have hcount : (j :: turns).count i = turns.count i + if j = i then 1 else 0 := by
      rw [List.count_cons]
      simp only [beq_iff_eq]
    omega

/-- A call is done after five turns, whatever the other calls do. -/
theorem isDone_run (s : Supply) {trees : List (AnyTree S)} (h : Identified trees) {i : Nat} {turns : List Nat}
    (hturns : 5 ≤ turns.count i) {b : Call S} (hb : ((start s trees).run turns).calls[i]? = some b) :
    b.phase.isDone = true := by
  obtain ⟨a, ha, hle⟩ := remaining_run (sound_start s h) hb
  rw [probing_of_mem_start (List.mem_of_getElem? ha)] at hle
  change b.phase.remaining ≤ 5 - turns.count i at hle
  exact Phase.isDone_iff_remaining.mpr (by omega)

/-! ### Coherence -/

/-- What calls for trees come to, where one state of the race is later than the other one. -/
structure Coherent (trees : List (AnyTree S)) (r later : Race S) : Prop where
  /-- What a call for a tree gives is what is kept of the tree. -/
  stored : ∀ a ∈ later.calls, ∀ hit p, a.phase = .done hit (.ok p) →
    later.cache.find? a.tree.id = some p.compiled
  /-- All calls for a tree give one callable. -/
  same : ∀ a ∈ later.calls, ∀ b ∈ later.calls, a.tree.id = b.tree.id → ∀ hit hit' p q,
    a.phase = .done hit (.ok p) → b.phase = .done hit' (.ok q) → p.compiled = q.compiled
  /-- An entry stays what it is. -/
  kept : ∀ id e, r.cache.find? id = some e → later.cache.find? id = some e
  /-- A call that has not begun when there is an entry gives the entry, and is counted as a hit. -/
  hit : ∀ (i : Nat) (a b : Call S), r.calls[i]? = some a → later.calls[i]? = some b → a.phase = .probing → ∀ e,
    r.cache.find? a.tree.id = some e → ∀ hit res, b.phase = .done hit res →
      hit = true ∧ ∃ p, res = .ok p ∧ p.compiled = e
  /-- Every call is counted once. -/
  counted : (∀ a ∈ later.calls, a.phase.isDone = true) →
    later.cache.hits + later.cache.misses = trees.length
  /-- The calls that did not find their trees have compiled them, as far as they compile. -/
  compilations : (∀ a ∈ later.calls, a.phase.isDone = true) →
    later.cache.compilations = later.calls.countP fun a => a.phase.miss && a.tree.compile.isOk
  /-- What is in the cache in the end is of the trees that compile. -/
  contains : (∀ a ∈ later.calls, a.phase.isDone = true) → ∀ id,
    later.cache.contains id = true ↔ ∃ x ∈ trees, x.2.id = id ∧ x.2.compile.isOk = true
  cached : later.cache.StemsFrom trees
  /-- A call gives what the tree compiles to. -/
  result : ∀ a ∈ later.calls, ∀ hit res, a.phase = .done hit res →
    res.map (fun p => p.compiled.code) = a.tree.compile
  trees_eq : later.trees = trees

namespace Sound

variable {r : Race S}

/-- A call that succeeded gave what is in the cache. -/
theorem find?_of_done (h : r.Sound) {a : Call S} (ha : a ∈ r.calls) {hit : Bool} {p : Predicate S a.entity}
    (hdone : a.phase = .done hit (.ok p)) : r.cache.find? a.tree.id = some p.compiled := by
  have hphase := h.phase a ha
  rw [hdone] at hphase
  exact hphase

theorem result_of_done (h : r.Sound) {a : Call S} (ha : a ∈ r.calls) {hit : Bool} {res : Result (Predicate S a.entity)}
    (hdone : a.phase = .done hit res) : res.map (fun p => p.compiled.code) = a.tree.compile := by
  cases res with
  | ok p => exact (h.cached.isOf h.identified (mem_trees ha) (h.find?_of_done ha hdone)).code_eq.symm
  | error err =>
    have hphase := h.phase a ha
    rw [hdone] at hphase
    exact hphase.2.symm

/-- Calls that are done were counted as hits or as misses. -/
theorem hits_add_misses (h : r.Sound) (hdone : ∀ a ∈ r.calls, a.phase.isDone = true) :
    r.cache.hits + r.cache.misses = r.calls.length := by
  have hmisses : (r.calls.countP fun a => a.phase.miss) = r.calls.countP fun a => ¬a.phase.hit = true :=
    List.countP_congr fun a ha => by simp [Phase.miss_eq_not_hit (hdone a ha)]
  rw [h.hits, h.misses, hmisses]
  exact (List.length_eq_countP_add_countP fun a : Call S => a.phase.hit).symm

theorem compilations_of_done (h : r.Sound) (hdone : ∀ a ∈ r.calls, a.phase.isDone = true) :
    r.cache.compilations = r.calls.countP fun a => a.phase.miss && a.tree.compile.isOk := by
  rw [h.compilations]
  refine List.countP_congr fun a ha => ?_
  have hisDone := hdone a ha
  cases hphase : a.phase with
  | done hit res =>
    have hresult := h.result_of_done ha hphase
    rw [← hresult]
    cases res <;> simp [Phase.compilation, Phase.miss, Except.map, Except.isOk, Except.toBool]
  | _ =>
    rw [hphase] at hisDone
    cases hisDone

theorem contains_of_done (h : r.Sound) (hdone : ∀ a ∈ r.calls, a.phase.isDone = true) (id : Nat) :
    r.cache.contains id = true ↔ ∃ x ∈ r.trees, x.2.id = id ∧ x.2.compile.isOk = true := by
  rw [Cache.contains, Option.isSome_iff_exists]
  constructor
  · rintro ⟨e, he⟩
    obtain ⟨x, hx, hid, hof⟩ := h.cached.entry id e he
    refine ⟨x, hx, hid, ?_⟩
    rw [hof.code_eq]
    rfl
  · rintro ⟨x, hx, rfl, hok⟩
    obtain ⟨a, ha, rfl⟩ := List.mem_map.mp hx
    have hisDone := hdone a ha
    cases hphase : a.phase with
    | done hit res =>
      cases res with
      | ok p => exact ⟨_, h.find?_of_done ha hphase⟩
      | error err =>
        rw [← h.result_of_done ha hphase] at hok
        cases hok
    | _ =>
      rw [hphase] at hisDone
      cases hisDone

end Sound

/-- Calls for trees that share an empty cache are coherent, in whatever order they take turns. -/
theorem race_coherent (s : Supply) {trees : List (AnyTree S)} (h : Identified trees) (turns more : List Nat) :
    Coherent trees ((start s trees).run turns) ((start s trees).run (turns ++ more)) := by
  have hr := (sound_start s h).run turns
  have hl := (sound_start s h).run (turns ++ more)
  have htrees : ((start s trees).run (turns ++ more)).trees = trees :=
    (trees_run (sound_start s h) _).trans (trees_start s trees)
  constructor
  case stored => exact fun a ha hit p hdone => hl.find?_of_done ha hdone
  case same =>
    intro a ha b hb hid hit hit' p q hp hq
    have hfind := hl.find?_of_done ha hp
    rw [hid, hl.find?_of_done hb hq] at hfind
    exact (Option.some.inj hfind).symm
  case kept =>
    intro id e he
    rw [run_append]
    exact find?_run hr he more
  case hit =>
    intro i a b ha hb hprobing e he hit res hdone
    have hstart : ((start s trees).run turns).Finds i e := ⟨a, ha, by rw [hprobing]; trivial, he⟩
    obtain ⟨b', hb', hfinds, -⟩ := hstart.run hr more
    rw [← run_append, hb] at hb'
    obtain rfl := Option.some.inj hb'
    rw [hdone] at hfinds
    cases res with
    | ok p => exact ⟨hfinds.1, p, rfl, hfinds.2⟩
    | error err => cases hfinds
  case counted =>
    intro hdone
    have hlength := congrArg List.length htrees
    rw [Race.trees, List.length_map] at hlength
    rw [hl.hits_add_misses hdone, hlength]
  case compilations => exact hl.compilations_of_done
  case contains =>
    intro hdone id
    rw [hl.contains_of_done hdone, htrees]
  case cached =>
    have hcached := hl.cached
    rw [htrees] at hcached
    exact hcached
  case result => exact fun a ha hit res hdone => hl.result_of_done ha hdone
  case trees_eq => exact htrees

/-- Two calls find no predicate of adults and compile the tree both. The first one that has compiled it is done before
a third call begins, which finds what that has kept, as the second one does in the end. -/
theorem race_coherent_adult : ∃ (trees : List (AnyTree People.schema)) (turns more : List Nat),
    Identified trees ∧ Coherent trees ((start {} trees).run turns) ((start {} trees).run (turns ++ more)) ∧
      (((start {} trees).run turns).calls[2]?.map fun a => a.phase.isDone) = some false ∧
      (((start {} trees).run (turns ++ more)).calls.all fun a => a.phase.isDone) = true ∧
      ((start {} trees).run (turns ++ more)).cache.hits = 1 ∧
      ((start {} trees).run (turns ++ more)).cache.misses = 2 ∧
      ((start {} trees).run (turns ++ more)).cache.compilations = 2 := by
  have hid : Identified (List.replicate 3 (⟨People.person, People.adult.tree⟩ : AnyTree People.schema)) := by
    intro x hx y hy _
    rw [List.eq_of_mem_replicate hx, List.eq_of_mem_replicate hy]
  exact ⟨_, [0, 1, 0, 1, 0, 1, 0, 0], [1, 1, 2, 2], hid, race_coherent {} hid _ _, by decide +kernel,
    by decide +kernel, by decide +kernel, by decide +kernel, by decide +kernel⟩

end Race

end EntityQuery

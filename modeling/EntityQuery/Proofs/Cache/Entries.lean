import EntityQuery.Proofs.Predicate.Evaluation
import Mathlib.Data.List.Nodup

/-!
# Entries of caches

Entries are kept under the identities of trees. An entry belongs to a tree if it was compiled from it, for rows of its
type (`Compiled.IsOf`); trees that are told apart by their identities (`Identified`) so have their own entries.

To compile a tree by way of a cache does one of three things: it finds the tree, it finds that the tree does not
compile, or it adds an entry (`Cache.Agrees.compile_cases`). What is in a cache so stems from the trees that are
compiled (`Cache.StemsFrom.compile`).
-/

namespace EntityQuery

variable {S : Schema} {t : S.Entity}

/-! ### Trees and their entries -/

/-- A tree over whichever type. -/
abbrev AnyTree (S : Schema) := Σ t : S.Entity, Tree S t

/-- No two trees have one identity. -/
def Identified (trees : List (AnyTree S)) : Prop :=
  ∀ x ∈ trees, ∀ y ∈ trees, x.2.id = y.2.id → x = y

/-- The entry was compiled from the tree, for rows of its type. -/
structure Compiled.IsOf (e : Compiled S) (tree : Tree S t) : Prop where
  tree_eq : e.tree = tree.id
  entity_eq : e.entity = t
  code_eq : tree.compile = .ok e.code

/-- What an entry of a tree is asked as is the entry. -/
theorem Compiled.IsOf.as? {e : Compiled S} {tree : Tree S t} (h : e.IsOf tree) :
    ∃ p : Predicate S t, e.as? t = some p ∧ p.compiled = e :=
  ⟨⟨e, h.entity_eq⟩, dif_pos h.entity_eq, rfl⟩

/-- A new predicate of a tree. -/
def Predicate.ofCode (tree : Tree S t) (callable : Nat) (code : ConditionCode S) : Predicate S t :=
  ⟨⟨t, tree.id, callable, code⟩, rfl⟩

theorem Predicate.ofCode_isOf {tree : Tree S t} {code : ConditionCode S} (h : tree.compile = .ok code)
    (callable : Nat) : (Predicate.ofCode tree callable code).compiled.IsOf tree where
  tree_eq := rfl
  entity_eq := rfl
  code_eq := h

theorem Tree.compileNew_of_ok {tree : Tree S t} {code : ConditionCode S} (h : tree.compile = .ok code)
    (s : Supply) :
    tree.compileNew s = (.ok (.ofCode tree s.callables code), { s with callables := s.callables + 1 }) := by
  simp only [compileNew, h]
  rfl

theorem Tree.compileNew_of_error {tree : Tree S t} {err : QueryError} (h : tree.compile = .error err)
    (s : Supply) : tree.compileNew s = (.error err, s) := by
  simp only [compileNew, h]
  rfl

/-- What a call for a tree gives if the entry is kept. -/
def Tree.given (tree : Tree S t) (kept : Compiled S) : Result (Predicate S t) :=
  match kept.as? t with
  | some p => .ok p
  | none => .error (Cache.wrongEntity tree.id)

theorem Tree.given_compiled (tree : Tree S t) (p : Predicate S t) : tree.given p.compiled = .ok p := by
  rw [given, Compiled.as?_compiled]

namespace Cache

variable {c : Cache S} {tree : Tree S t}

/-! ### Looking up -/

/-- What is found depends on the entries only, not on the counters. -/
theorem find?_eq_of_entries {c d : Cache S} (h : c.entries = d.entries) (id : Nat) : c.find? id = d.find? id := by
  rw [find?, find?, h]

theorem get?_of_find? {p : Predicate S t} (h : c.find? tree.id = some p.compiled) : c.get? tree = some p := by
  rw [get?, h]
  exact Compiled.as?_compiled p

theorem find?_of_get? {p : Predicate S t} (h : c.get? tree = some p) : c.find? tree.id = some p.compiled := by
  obtain ⟨e, he, hp⟩ := Option.bind_eq_some_iff.mp h
  unfold Compiled.as? at hp
  split at hp
  · cases hp
    exact he
  · cases hp

theorem get?_of_find?_eq_none (h : c.find? tree.id = none) : c.get? tree = none := by
  rw [get?, h]
  rfl

/-- The cache with one more entry. -/
def add (c : Cache S) (id : Nat) (e : Compiled S) : Cache S := { c with entries := c.entries ++ [(id, e)] }

theorem publish_of_find?_eq_none {id : Nat} (h : c.find? id = none) (e : Compiled S) :
    c.publish id e = (e, c.add id e) := by
  rw [publish, h]
  rfl

/-- Of what is published only the first thing is kept. -/
theorem find?_add {id : Nat} (h : c.find? id = none) (e : Compiled S) (other : Nat) :
    (c.add id e).find? other = if other = id then some e else c.find? other := by
  have hadd : c.add id e = (c.publish id e).2 := by rw [publish_of_find?_eq_none h]
  rw [hadd]
  split
  · next heq => rw [heq, find?_publish_self, publish_of_find?_eq_none h]
  · next hne => rw [find?_publish_of_ne c e hne]

/-! ### Keys -/

/-- No identity has two entries. -/
def Keyed (c : Cache S) : Prop := (c.entries.map Prod.fst).Nodup

theorem keyed_empty : (empty : Cache S).Keyed := List.nodup_nil

theorem find?_eq_none_iff {id : Nat} : c.find? id = none ↔ id ∉ c.entries.map Prod.fst := by
  rw [find?, Option.map_eq_none_iff, List.find?_eq_none, List.mem_map]
  constructor
  · rintro h ⟨entry, hentry, hid⟩
    exact h entry hentry (beq_iff_eq.mpr hid)
  · exact fun h entry hentry hid => h ⟨entry, hentry, beq_iff_eq.mp hid⟩

/-- What is found is what there is. -/
theorem Keyed.find?_eq_some_iff (h : c.Keyed) {id : Nat} {e : Compiled S} :
    c.find? id = some e ↔ (id, e) ∈ c.entries := by
  rw [find?, Option.map_eq_some_iff]
  constructor
  · rintro ⟨entry, hentry, rfl⟩
    have hid := List.find?_some hentry
    obtain rfl := beq_iff_eq.mp hid
    exact List.mem_of_find?_eq_some hentry
  · intro hmem
    cases hfind : c.entries.find? fun entry => entry.1 == id with
    | none => exact absurd (List.find?_eq_none.mp hfind _ hmem) (not_not_intro BEq.rfl)
    | some entry =>
      have hid := List.find?_some hfind
      have heq : entry = (id, e) :=
        List.inj_on_of_nodup_map h (List.mem_of_find?_eq_some hfind) hmem (beq_iff_eq.mp hid)
      exact ⟨entry, rfl, by rw [heq]⟩

theorem Keyed.add (h : c.Keyed) {id : Nat} (hn : c.find? id = none) (e : Compiled S) : (c.add id e).Keyed := by
  rw [Keyed, Cache.add, List.map_append]
  exact List.Nodup.append h (List.nodup_singleton id) (List.disjoint_singleton.mpr (find?_eq_none_iff.mp hn))

theorem Keyed.remove (h : c.Keyed) (id : Nat) : (c.remove id).2.Keyed :=
  h.sublist (List.filter_sublist.map Prod.fst)

/-! ### Counting -/

/-- A tree was found. -/
def countHit (c : Cache S) : Cache S := { c with hits := c.hits + 1 }

/-- A tree was not found. -/
def countMiss (c : Cache S) : Cache S := { c with misses := c.misses + 1 }

/-- A tree was compiled. -/
def countCompilation (c : Cache S) : Cache S := { c with compilations := c.compilations + 1 }

/-! ### Compiling by way of a cache -/

theorem compile_eq_of_get? {p : Predicate S t} (h : c.get? tree = some p) (s : Supply) :
    c.compile tree s = ((.ok p, c.countHit), s) := by
  simp only [compile, h]
  rfl

theorem compile_eq_of_error {err : QueryError} (h : c.get? tree = none)
    (hf : tree.compile = .error err) (s : Supply) : c.compile tree s = ((.error err, c.countMiss), s) := by
  simp only [compile, h, Fresh.bind_apply, Tree.compileNew_of_error hf]
  rfl

theorem compile_eq_of_ok {code : ConditionCode S} (h : c.get? tree = none)
    (hf : tree.compile = .ok code) (s : Supply) :
    c.compile tree s =
      ((tree.given (c.countMiss.countCompilation.publish tree.id (Predicate.ofCode tree s.callables code).compiled).1,
        (c.countMiss.countCompilation.publish tree.id (Predicate.ofCode tree s.callables code).compiled).2),
        { s with callables := s.callables + 1 }) := by
  unfold countMiss countCompilation Tree.given
  cases hkept : ({ c with misses := c.misses + 1, compilations := c.compilations + 1 : Cache S }.publish tree.id
      (Predicate.ofCode tree s.callables code).compiled).1.as? t
  all_goals
    simp only [compile, h, Fresh.bind_apply, Tree.compileNew_of_ok hf, hkept]
    rfl

/-- What compiling a tree by way of a cache does: it finds the tree, or that the tree does not compile, or it adds an
entry. -/
theorem Agrees.compile_cases (h : c.Agrees tree) (s : Supply) :
    (∃ p : Predicate S t, c.find? tree.id = some p.compiled ∧ c.compile tree s = ((.ok p, c.countHit), s)) ∨
      (∃ err, c.find? tree.id = none ∧ tree.compile = .error err ∧
        c.compile tree s = ((.error err, c.countMiss), s)) ∨
      ∃ p : Predicate S t, c.find? tree.id = none ∧ p.compiled.IsOf tree ∧
        c.compile tree s = ((.ok p, c.countMiss.countCompilation.add tree.id p.compiled),
          { s with callables := s.callables + 1 }) := by
  cases hn : c.find? tree.id with
  | some e =>
    let p : Predicate S t := ⟨e, (h e hn).1⟩
    exact .inl ⟨p, rfl, compile_eq_of_get? (get?_of_find? (p := p) hn) s⟩
  | none =>
    have hp := get?_of_find?_eq_none hn
    cases hf : tree.compile with
    | error err => exact .inr (.inl ⟨err, rfl, rfl, compile_eq_of_error hp hf s⟩)
    | ok code =>
      let p : Predicate S t := .ofCode tree s.callables code
      have hpublish : c.countMiss.countCompilation.publish tree.id p.compiled =
          (p.compiled, c.countMiss.countCompilation.add tree.id p.compiled) :=
        publish_of_find?_eq_none (c := c.countMiss.countCompilation) hn p.compiled
      refine .inr (.inr ⟨p, rfl, Predicate.ofCode_isOf hf _, ?_⟩)
      rw [compile_eq_of_ok hp hf, hpublish, tree.given_compiled p]

/-- A tree has an entry afterwards if it had one, or if it was compiled now. -/
theorem Agrees.isSome_find?_compile (h : c.Agrees tree) (s : Supply) (id : Nat) :
    ((c.compile tree s).1.2.find? id).isSome = true ↔
      (c.find? id).isSome = true ∨ id = tree.id ∧ ∃ p, (c.compile tree s).1.1 = .ok p := by
  obtain ⟨p, hfind, hc⟩ | ⟨err, -, -, hc⟩ | ⟨p, hn, -, hc⟩ := h.compile_cases s
  · rw [hc]
    refine ⟨.inl, ?_⟩
    rintro (hid | ⟨rfl, -⟩)
    · exact hid
    · exact Option.isSome_iff_exists.mpr ⟨_, hfind⟩
  · rw [hc]
    refine ⟨.inl, ?_⟩
    rintro (hid | ⟨-, q, hq⟩)
    · exact hid
    · cases hq
  · have hadd := find?_add (c := c.countMiss.countCompilation) hn p.compiled id
    simp only [hc, hadd]
    by_cases hid : id = tree.id
    · rw [if_pos hid]
      exact iff_of_true rfl (.inr ⟨hid, p, rfl⟩)
    · rw [if_neg hid]
      exact ⟨.inl, fun hsome => hsome.resolve_right fun hnew => hid hnew.1⟩

/-- Compiling makes no trees. -/
theorem Agrees.trees_compile (h : c.Agrees tree) (s : Supply) : (c.compile tree s).2.trees = s.trees := by
  obtain ⟨p, -, hc⟩ | ⟨err, -, -, hc⟩ | ⟨p, -, -, hc⟩ := h.compile_cases s
  all_goals rw [hc]

/-- What does not compile leaves the entries as they were. -/
theorem Agrees.entries_of_compile_eq_error (h : c.Agrees tree) {s : Supply} {err : QueryError}
    (he : (c.compile tree s).1.1 = .error err) : (c.compile tree s).1.2.entries = c.entries := by
  obtain ⟨p, -, hc⟩ | ⟨err', -, -, hc⟩ | ⟨p, -, -, hc⟩ := h.compile_cases s
  · rw [hc]
    rfl
  · rw [hc]
    rfl
  · rw [hc] at he
    cases he

/-! ### Caches of trees -/

/-- What is in the cache was compiled from the trees, and is kept under their identities. -/
structure StemsFrom (c : Cache S) (trees : List (AnyTree S)) : Prop where
  keyed : c.Keyed
  entry : ∀ id e, c.find? id = some e → ∃ x ∈ trees, x.2.id = id ∧ e.IsOf x.2

theorem stemsFrom_empty (trees : List (AnyTree S)) : (empty : Cache S).StemsFrom trees where
  keyed := keyed_empty
  entry id e he := by cases he

namespace StemsFrom

variable {trees : List (AnyTree S)}

/-- An entry under the identity of a tree was compiled from the tree. -/
theorem isOf (h : c.StemsFrom trees) (hid : Identified trees) {x : AnyTree S} (hx : x ∈ trees) {e : Compiled S}
    (he : c.find? x.2.id = some e) : e.IsOf x.2 := by
  obtain ⟨y, hy, heq, hof⟩ := h.entry _ e he
  obtain rfl := hid y hy x hx heq
  exact hof

theorem agrees (h : c.StemsFrom trees) (hid : Identified trees) (hx : ⟨t, tree⟩ ∈ trees) : c.Agrees tree :=
  fun _ he =>
    have hof := h.isOf hid hx he
    ⟨hof.entity_eq, hof.code_eq⟩

theorem mono (h : c.StemsFrom trees) {more : List (AnyTree S)} (hsub : ∀ x ∈ trees, x ∈ more) :
    c.StemsFrom more where
  keyed := h.keyed
  entry id e he :=
    have ⟨x, hx, hof⟩ := h.entry id e he
    ⟨x, hsub x hx, hof⟩

theorem of_entries_eq (h : c.StemsFrom trees) {d : Cache S} (hd : d.entries = c.entries) : d.StemsFrom trees where
  keyed := by
    rw [Keyed, hd]
    exact h.keyed
  entry id e he := by
    rw [find?_eq_of_entries hd] at he
    exact h.entry id e he

theorem add (h : c.StemsFrom trees) (hx : ⟨t, tree⟩ ∈ trees) (hn : c.find? tree.id = none) {e : Compiled S}
    (hof : e.IsOf tree) : (c.add tree.id e).StemsFrom trees where
  keyed := h.keyed.add hn e
  entry id e' he := by
    rw [find?_add hn] at he
    split at he
    · next heq => exact ⟨_, hx, heq.symm, Option.some.inj he ▸ hof⟩
    · exact h.entry id e' he

theorem remove (h : c.StemsFrom trees) (id : Nat) : (c.remove id).2.StemsFrom trees where
  keyed := h.keyed.remove id
  entry other e he := by
    by_cases hother : other = id
    · rw [hother, find?_remove_self] at he
      cases he
    · rw [find?_remove_of_ne c hother] at he
      exact h.entry other e he

theorem clear (c : Cache S) (trees : List (AnyTree S)) : c.clear.StemsFrom trees where
  keyed := List.nodup_nil
  entry id e he := by cases he

theorem compile (h : c.StemsFrom trees) (hid : Identified trees) (hx : ⟨t, tree⟩ ∈ trees) (s : Supply) :
    (c.compile tree s).1.2.StemsFrom trees := by
  obtain ⟨p, -, hc⟩ | ⟨err, -, -, hc⟩ | ⟨p, hn, hp, hc⟩ := (h.agrees hid hx).compile_cases s
  · rw [hc]
    exact h.of_entries_eq rfl
  · rw [hc]
    exact h.of_entries_eq rfl
  · rw [hc]
    have hcounted : c.countMiss.countCompilation.StemsFrom trees := h.of_entries_eq rfl
    exact hcounted.add hx hn hp

end StemsFrom

end Cache

/-! ### What a specification remembers -/

namespace Specification

variable {a : Specification S t}

/-- The specification that remembers what it was compiled to, if it was. -/
def remember (a : Specification S t) : Result (Predicate S t) → Specification S t
  | .ok p => { a with memo := some p }
  | .error _ => a

@[simp] theorem tree_remember (r : Result (Predicate S t)) : (a.remember r).tree = a.tree := by
  cases r <;> rfl

theorem compiledWith_of_memo {p : Predicate S t} (h : a.memo = some p) (c : Cache S) (s : Supply) :
    a.compiledWith c s = ((.ok p, a, c), s) := by
  simp only [compiledWith, h]
  rfl

theorem compiledWith_of_memo_eq_none (h : a.memo = none) {c d : Cache S} {s u : Supply}
    {r : Result (Predicate S t)} (hc : c.compile a.tree s = ((r, d), u)) :
    a.compiledWith c s = ((r, a.remember r, d), u) := by
  simp only [compiledWith, h, Fresh.bind_apply, hc]
  cases r <;> rfl

end Specification

end EntityQuery

import EntityQuery.Proofs.People
import EntityQuery.Proofs.RowSource.Running

/-!
# The order of the rows of a source

Rows are filtered at once and sorted late. As long as a run does not observe them, that cannot be told from
sorting first: the rows are the stable sort, by the current ordering, of those that pass all filters, and a
filter can be moved anywhere in the run (`RowSource.run_lazy`).

To order further breaks the ties of the keys that are pending (`RowSource.thenBy_breaksTies`). These are the
current ordering if the rows were not observed since it was asked for. Otherwise the keys from before are
forgotten, and a further key reorders rows that differ under them (`RowSource.not_breaksTies_observed`).
-/

namespace EntityQuery

namespace People

/-- By name, in ascending order. -/
def byName : OrderKey (schema.Row person) := ⟨nameProperty, false, .first⟩

/-- The oldest first, and those whose age is not known last. -/
def byAge : OrderKey (schema.Row person) := ⟨ageProperty, true, .last⟩

end People

variable {S : Schema} {t : S.Entity}

namespace RowSource

open SourceStep

/-! ### Runs that do not observe rows -/

variable {steps : List (SourceStep S t)}

/-- A run without observations ends with the stable sort of the rows that pass. -/
theorem foldl_next_isStableSort (hlazy : ∀ s ∈ steps, s.observes = false) (rows : List (S.Row t)) :
    IsStableSort (RowOrder.compareRows (ordering steps)) (rows.filter fun r => steps.all (passes r))
      (steps.foldl next (ofRows rows)).toList := by
  have h := toList_isStableSort (steps.foldl next (ofRows rows))
  rw [foldl_next_pending, (unobserved_of_lazy hlazy).pendingKeys_eq, foldl_next_rows hlazy] at h
  exact h

section Moving

variable {before after before' after' : List (SourceStep S t)}

/-- To move a step is to permute the steps. -/
theorem perm_move (s : SourceStep S t) (hmoved : before' ++ after' = before ++ after) :
    (before' ++ s :: after').Perm (before ++ s :: after) := by
  refine List.perm_middle.trans (.trans ?_ List.perm_middle.symm)
  rw [hmoved]

/-- A run without observations ends with the same rows wherever a filter of it stands. -/
theorem foldl_next_move {a : Specification S t} (hmoved : before' ++ after' = before ++ after)
    (hlazy : ∀ s ∈ before ++ .filter a :: after, s.observes = false) (rows : List (S.Row t)) :
    ((before' ++ .filter a :: after').foldl next (ofRows rows)).toList =
      ((before ++ .filter a :: after).foldl next (ofRows rows)).toList := by
  have hperm := perm_move (.filter a) hmoved
  have hlazy' : ∀ s ∈ before' ++ .filter a :: after', s.observes = false := fun s hs =>
    hlazy s (hperm.mem_iff.mp hs)
  have hordering : ordering (before' ++ .filter a :: after') = ordering (before ++ .filter a :: after) := by
    rw [ordering_filter, ordering_filter, hmoved]
  have hpass : (fun r => (before' ++ .filter a :: after').all (passes r)) =
      fun r => (before ++ .filter a :: after).all (passes r) := funext fun r => hperm.all_eq
  have hsort' := foldl_next_isStableSort hlazy' rows
  rw [hordering, hpass] at hsort'
  exact hsort'.unique (foldl_next_isStableSort hlazy rows)

end Moving

/-- A run of filters and keys, whose filters compile, ends with the stable sort, by the keys since the latest
order, of the rows that pass all filters. It might as well have sorted all rows first, and it ends with the
same rows if one of the filters is moved. -/
theorem run_lazy (rows : List (S.Row t)) (hlazy : ∀ s ∈ steps, s.observes = false)
    (hcompiles : ∀ s ∈ steps, s.Compiles) :
    ∃ m, (ofRows rows).run steps = .ok m ∧
      (∀ l, IsStableSort (RowOrder.compareRows (ordering steps))
        (rows.filter fun r => steps.all (passes r)) l ↔ m.toList = l) ∧
      (∀ l, IsStableSort (RowOrder.compareRows (ordering steps)) rows l →
        m.toList = l.filter fun r => steps.all (passes r)) ∧
      ∀ a before after before' after', steps = before ++ .filter a :: after →
        before' ++ after' = before ++ after →
        ∃ m', (ofRows rows).run (before' ++ .filter a :: after') = .ok m' ∧ m'.toList = m.toList := by
  have hsort := foldl_next_isStableSort hlazy rows
  refine ⟨steps.foldl next (ofRows rows), run_eq_ok_iff.mpr ⟨hcompiles, rfl⟩,
    fun l => ⟨hsort.unique, ?_⟩, fun l hl => ?_, ?_⟩
  · rintro rfl
    exact hsort
  · exact hsort.unique (hl.filter _)
  · rintro a before after before' after' rfl hmoved
    have hcompiles' : ∀ s ∈ before' ++ .filter a :: after', s.Compiles := fun s hs =>
      hcompiles s ((perm_move (.filter a) hmoved).mem_iff.mp hs)
    exact ⟨_, run_eq_ok_iff.mpr ⟨hcompiles', rfl⟩, foldl_next_move hmoved hlazy rows⟩

/-- People are ordered by age after all, so Cleo comes before Bob, and whoever is not known to be an adult is left
out whether before or after an order by name is asked for. -/
theorem run_lazy_adult : ∃ m,
    (ofRows [People.ada, People.bob, People.cleo]).run
      [.orderBy People.byName, .filter People.adult, .orderBy People.byAge] = .ok m ∧
      m.toList = [People.cleo, People.bob] ∧
      ∃ m', (ofRows [People.ada, People.bob, People.cleo]).run
        [.filter People.adult, .orderBy People.byName, .orderBy People.byAge] = .ok m' ∧
        m'.toList = [People.cleo, People.bob] := by
  let steps : List (SourceStep People.schema People.person) :=
    [.orderBy People.byName, .filter People.adult, .orderBy People.byAge]
  have hlazy : ∀ s ∈ steps, s.observes = false := by simp [steps, observes]
  have hadult : People.adult.Compiles := ⟨_, rfl⟩
  have hcompiles : ∀ s ∈ steps, s.Compiles := by simp [steps, Compiles, hadult]
  obtain ⟨m, hm, hsort, -, hmoved⟩ := run_lazy [People.ada, People.bob, People.cleo] hlazy hcompiles
  have hadults : m.toList = [People.cleo, People.bob] :=
    (hsort _).mp (.of_strict (.swap People.bob People.cleo []) (by decide))
  obtain ⟨m', hm', hrows⟩ := hmoved People.adult [.orderBy People.byName] [.orderBy People.byAge] []
    [.orderBy People.byName, .orderBy People.byAge] rfl rfl
  exact ⟨m, hm, hadults, m', hm', hrows.trans hadults⟩

/-! ### Further keys -/

/-- One more key breaks the ties of the pending ones. -/
theorem breaksTies_pending {ρ : Type} (m : RowSource ρ) (k : OrderKey ρ) :
    BreaksTies (RowOrder.compareRows m.pending.keys) k.compare m.toList (m.thenBy k).toList := by
  have hafter : IsStableSort (RowOrder.compareRows (m.pending.keys ++ [k])) m.rows (m.thenBy k).toList :=
    toList_isStableSort (m.thenBy k)
  rw [RowOrder.compareRows_append, RowOrder.compareRows_singleton] at hafter
  exact m.toList_isStableSort.breaksTies hafter

/-- After any run, a further key breaks the ties of the keys that are pending, and hence those of the current
ordering if the rows were not observed since a key of it was asked for. -/
theorem thenBy_breaksTies {rows : List (S.Row t)} {m : RowSource (S.Row t)}
    (h : (ofRows rows).run steps = .ok m) (k : OrderKey (S.Row t)) :
    BreaksTies (RowOrder.compareRows (pendingKeys steps)) k.compare m.toList (m.thenBy k).toList ∧
      (Unobserved steps →
        BreaksTies (RowOrder.compareRows (ordering steps)) k.compare m.toList (m.thenBy k).toList) := by
  obtain ⟨-, rfl⟩ := run_eq_ok_iff.mp h
  have hbreaks := breaksTies_pending (steps.foldl next (ofRows rows)) k
  rw [foldl_next_pending] at hbreaks
  refine ⟨hbreaks, fun hunobserved => ?_⟩
  rw [← hunobserved.pendingKeys_eq]
  exact hbreaks

/-- The rows are observed before they are ordered by name, and not after it. -/
theorem thenBy_breaksTies_name : ∃ m,
    (ofRows [People.bob, People.ada]).run [.rows, .orderBy People.byName] = .ok m ∧
      BreaksTies (RowOrder.compareRows [People.byName]) People.byAge.compare m.toList
        (m.thenBy People.byAge).toList := by
  let steps : List (SourceStep People.schema People.person) := [.rows, .orderBy People.byName]
  let m : RowSource (People.schema.Row People.person) :=
    (ofRows [People.bob, People.ada]).flush.orderBy People.byName
  have hrun : (ofRows [People.bob, People.ada]).run steps = .ok m := rfl
  have hunobserved : Unobserved steps := List.pairwise_singleton _ _
  exact ⟨m, hrun, (thenBy_breaksTies hrun People.byAge).2 hunobserved⟩

/-- Once the rows are observed, a further key reorders rows that differ under the current ordering. -/
theorem not_breaksTies_observed :
    ¬ ∀ (rows : List (People.schema.Row People.person)) (steps : List (SourceStep People.schema People.person))
      (m : RowSource (People.schema.Row People.person)) (k : OrderKey (People.schema.Row People.person)),
      (ofRows rows).run steps = .ok m →
        BreaksTies (RowOrder.compareRows (ordering steps)) k.compare m.toList (m.thenBy k).toList := by
  intro h
  let m : RowSource (People.schema.Row People.person) :=
    ((ofRows [People.ada, People.bob]).orderBy People.byName).flush
  have hties := h [People.ada, People.bob] [.orderBy People.byName, .rows] m People.byAge rfl
  have hrows : m.rows = [People.ada, People.bob] :=
    (toList_isStableSort ((ofRows [People.ada, People.bob]).orderBy People.byName)).unique
      (.of_ordered (by decide))
  have hafter : (m.thenBy People.byAge).toList = [People.bob, People.ada] := by
    have hsort : (m.thenBy People.byAge).toList = RowOrder.sort ⟨[People.byAge]⟩ m.rows := rfl
    have hage : (RowOrder.compareRows [People.byAge] People.ada People.bob).isLE = false := by decide
    rw [hsort, hrows, RowOrder.sort_eq_mergeSort]
    simp [List.mergeSort, hage]
  -- Ada is before Bob by name, and was so when the rows were observed
  have hordered := hties.ordered
  rw [hafter] at hordered
  exact absurd hordered (by decide)

end RowSource

end EntityQuery

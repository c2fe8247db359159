import EntityQuery.Proofs.Order.Preorder
import EntityQuery.Proofs.Sql.Ordering

/-!
# Where Postgres puts nulls

A key that does not say where nulls go is rendered without saying it, and the database decides. In memory nulls are
before all values in ascending order and after them in descending order; null is the greatest value for Postgres, so
there it is the other way round (`OrderKey.placedBy_postgres`).

So Postgres compares rows by the same keys with nulls moved to the other side. That matters only where the key that
decides finds a null in one row and a value in the other: there the outcome is turned round, and everywhere else it is
as in memory (`RowOrder.compareRows_moveNulls`, `renderOrder_postgres_compares`).
-/

namespace EntityQuery

/-! ### Keys with nulls on the other side -/

namespace OrderKey

variable {ρ : Type}

/-- The key in its direction, with nulls on the other side. -/
def moveNulls (k : OrderKey ρ) : OrderKey ρ := { k with nulls := k.nulls.opposite }

/-- One of two rows has a null where the other has a value. -/
def meetsNull (k : OrderKey ρ) (a b : ρ) : Bool := (k.extract a).isNull != (k.extract b).isNull

/-- To move nulls turns round what is said of a null and a value, and leaves the rest. -/
theorem compare_moveNulls (k : OrderKey ρ) (a b : ρ) :
    k.moveNulls.compare a b = if k.meetsNull a b then (k.compare a b).swap else k.compare a b := by
  have hextract : ∀ r, k.moveNulls.extract r = k.extract r := fun _ => rfl
  have hside : nullSide k.moveNulls.nulls = (nullSide k.nulls).swap := nullSide_opposite k.nulls
  rw [compare, compare, hextract, hextract, compareValues, compareValues, hside, meetsNull]
  cases (k.extract a).isNull <;> cases (k.extract b).isNull <;> rfl

end OrderKey

namespace RowOrder

variable {ρ : Type}

/-- The first key that tells two rows apart finds a null in one of them and a value in the other. -/
def decidedByNull (ks : List (OrderKey ρ)) (a b : ρ) : Bool :=
  (ks.find? fun k => k.compare a b != .eq).any fun k => k.meetsNull a b

theorem decidedByNull_of_tie {k : OrderKey ρ} {a b : ρ} (h : k.compare a b = .eq) (ks : List (OrderKey ρ)) :
    decidedByNull (k :: ks) a b = decidedByNull ks a b := by
  rw [decidedByNull, List.find?_cons, h]
  rfl

theorem decidedByNull_of_ne {k : OrderKey ρ} {a b : ρ} (h : k.compare a b ≠ .eq) (ks : List (OrderKey ρ)) :
    decidedByNull (k :: ks) a b = k.meetsNull a b := by
  rw [decidedByNull, List.find?_cons, bne_iff_ne.mpr h]
  rfl

/-- A key that tells two rows apart decides. -/
theorem compareRows_of_ne {k : OrderKey ρ} {a b : ρ} (h : k.compare a b ≠ .eq) (ks : List (OrderKey ρ)) :
    compareRows (k :: ks) a b = k.compare a b := by
  rw [compareRows]
  cases hk : k.compare a b with
  | eq => exact absurd hk h
  | lt | gt => rfl

/-- Keys with nulls on the other side compare two rows as the keys do, or the other way round if a null decides. -/
theorem compareRows_moveNulls (ks : List (OrderKey ρ)) (a b : ρ) :
    compareRows (ks.map OrderKey.moveNulls) a b =
      if decidedByNull ks a b then (compareRows ks a b).swap else compareRows ks a b := by
  induction ks with
  | nil => rfl
  | cons k rest ih =>
    by_cases hk : k.compare a b = .eq
    · rw [List.map_cons, compareRows, compareRows, k.compare_moveNulls, ih, decidedByNull_of_tie hk, hk,
        Ordering.swap_eq, ite_self, Ordering.eq_then, Ordering.eq_then]
    · have hmoved : k.moveNulls.compare a b ≠ .eq := by
        rw [k.compare_moveNulls]
        split
        · exact fun h => hk (Ordering.swap_eq_eq.mp h)
        · exact hk
      rw [List.map_cons, compareRows_of_ne hmoved, compareRows_of_ne hk, decidedByNull_of_ne hk,
        k.compare_moveNulls]

/-- What a null decides is decided. -/
theorem compareRows_ne_eq {ks : List (OrderKey ρ)} {a b : ρ} (h : decidedByNull ks a b = true) :
    compareRows ks a b ≠ .eq := by
  induction ks with
  | nil => cases h
  | cons k rest ih =>
    by_cases hk : k.compare a b = .eq
    · rw [decidedByNull_of_tie hk] at h
      rw [compareRows, hk, Ordering.eq_then]
      exact ih h
    · rwa [compareRows_of_ne hk]

/-- To move nulls makes a difference exactly where a null decides. -/
theorem compareRows_moveNulls_eq_iff {ks : List (OrderKey ρ)} {a b : ρ} :
    compareRows (ks.map OrderKey.moveNulls) a b = compareRows ks a b ↔ decidedByNull ks a b = false := by
  rw [compareRows_moveNulls]
  cases h : decidedByNull ks a b with
  | false => exact iff_of_true rfl rfl
  | true => exact iff_of_false (fun hswap => compareRows_ne_eq h (Ordering.eq_eq_of_eq_swap hswap.symm)) nofun

end RowOrder

/-- Postgres puts nulls on the side opposite to where they go in memory, if nothing is said. -/
theorem OrderKey.placedBy_postgres {S : Schema} {t : S.Entity} {key : SortKey} {k : OrderKey (S.Row t)}
    (hk : resolve t key = .ok k) (hn : key.nulls = none) : k.placedBy .postgres key = k.moveNulls := by
  rw [placedBy, moveNulls, (resolve_eq_ok hk).2, SortKey.effectiveNulls, SortKey.direction, hn]
  cases key.descending <;> rfl

namespace Sql

variable {E : Engine} {S : Schema} {t : S.Entity} {r r' : Column → Value} {a b : S.Row t}

/-- Keys that leave nulls to Postgres are rendered to a text that compares rows by these keys with nulls on the
other side. So rows compare as they do in memory, unless the first key that tells them apart finds a null in one of
them and a value in the other; then they compare the other way round. -/
theorem renderOrder_postgres_compares {most : Nat} {spec : SortSpec} {o : RowOrder (S.Row t)}
    (ho : RowOrder.ofSpec most t spec = .ok o) (hn : ∀ key ∈ spec, key.nulls = none)
    (ha : ∀ k ∈ o.keys, k.StoredIn r a) (hb : ∀ k ∈ o.keys, k.StoredIn r' b) :
    ∃ sql items, renderOrder .postgres t spec = .ok sql ∧ readOrder .postgres sql = some items ∧
      SortItem.compareRows E .postgres items r r' = RowOrder.compareRows (o.keys.map OrderKey.moveNulls) a b ∧
      (SortItem.compareRows E .postgres items r r' = o.compare a b ↔
        RowOrder.decidedByNull o.keys a b = false) ∧
      (RowOrder.decidedByNull o.keys a b = true →
        SortItem.compareRows E .postgres items r r' = (o.compare a b).swap) := by
  have hkeys := RowOrder.ofSpec_eq_ok ho
  have hmoved : List.zipWith (OrderKey.placedBy .postgres) spec o.keys = o.keys.map OrderKey.moveNulls :=
    OrderKey.zipWith_placedBy hkeys fun key hkey k hk => OrderKey.placedBy_postgres hk (hn key hkey)
  have hcompare : SortItem.compareRows E .postgres
      (((List.zipWith OrderTerm.ofResolved spec o.keys).flatMap (OrderTerm.columns .postgres)).map SortColumn.item)
      r r' = RowOrder.compareRows (o.keys.map OrderKey.moveNulls) a b := by
    rw [compareRows_zipWith_placedBy hkeys ha hb, hmoved]
  refine ⟨_, _, ?_, readOrder_toText .postgres (List.zipWith OrderTerm.ofResolved spec o.keys), hcompare, ?_, ?_⟩
  · rw [renderOrder, orderTerms_eq_ok hkeys]
    rfl
  · rw [hcompare]
    exact RowOrder.compareRows_moveNulls_eq_iff
  · intro hnull
    rw [hcompare, RowOrder.compareRows_moveNulls, if_pos hnull]
    rfl

end Sql

/-- Somebody else of the name of Ada, of thirty years. -/
def People.namesake : Person := ⟨"Ada", some 30, acme⟩

/-- The columns of people hold their names and ages. -/
theorem People.storedIn_columnsOf {k : OrderKey Person}
    (hk : k.property = nameProperty ∨ k.property = ageProperty) (p : Person) : k.StoredIn (columnsOf p) p := by
  obtain ⟨property, descending, nulls⟩ := k
  obtain rfl | rfl := hk
  · exact ⟨rfl, .inr rfl⟩
  · exact ⟨rfl, p.readAge_eq_null_or⟩

namespace Sql

/-- In Postgres, of two people of one name the one whose age is not known comes first in descending order, though in
memory it is the other one. -/
theorem renderOrder_postgres_compares_age : ∃ o sql items,
    RowOrder.ofSpec 8 People.person [⟨"Name", false, none⟩, ⟨"Age", true, none⟩] = .ok o ∧
    renderOrder .postgres People.person [⟨"Name", false, none⟩, ⟨"Age", true, none⟩] = .ok sql ∧
    readOrder .postgres sql = some items ∧ o.compare People.ada People.namesake = .gt ∧
    SortItem.compareRows Engine.standard .postgres items (People.columnsOf People.ada)
      (People.columnsOf People.namesake) = .lt := by
  have hstored : ∀ p : People.Person, ∀ k ∈ [(⟨People.nameProperty, false, .first⟩ : OrderKey People.Person),
      ⟨People.ageProperty, true, .last⟩], k.StoredIn (People.columnsOf p) p := by
    intro p k hk
    simp only [List.mem_cons, List.not_mem_nil, or_false] at hk
    rcases hk with rfl | rfl
    · exact People.storedIn_columnsOf (.inl rfl) p
    · exact People.storedIn_columnsOf (.inr rfl) p
  obtain ⟨sql, items, hsql, hitems, -, -, hturned⟩ := renderOrder_postgres_compares (E := Engine.standard)
    (show RowOrder.ofSpec 8 People.person [⟨"Name", false, none⟩, ⟨"Age", true, none⟩] = .ok _ from rfl)
    (by simp) (hstored People.ada) (hstored People.namesake)
  exact ⟨_, sql, items, rfl, hsql, hitems, by decide, hturned (by decide)⟩

/-- Keys that leave nulls to Postgres need not compare rows as in memory: people whose age is not known come first in
memory and last in Postgres. -/
theorem not_renderOrder_postgres_compares_eq :
    ¬∀ (spec : SortSpec) (o : RowOrder People.Person), RowOrder.ofSpec 8 People.person spec = .ok o →
      (∀ key ∈ spec, key.nulls = none) → ∀ a b : People.Person,
      (∀ k ∈ o.keys, k.StoredIn (People.columnsOf a) a) → (∀ k ∈ o.keys, k.StoredIn (People.columnsOf b) b) →
      ∃ sql items, renderOrder .postgres People.person spec = .ok sql ∧ readOrder .postgres sql = some items ∧
        SortItem.compareRows Engine.standard .postgres items (People.columnsOf a) (People.columnsOf b) =
          o.compare a b := by
  intro h
  have hstored : ∀ p : People.Person, ∀ k ∈ [(⟨People.ageProperty, false, .first⟩ : OrderKey People.Person)],
      k.StoredIn (People.columnsOf p) p := by
    intro p k hk
    rw [List.mem_singleton.mp hk]
    exact People.storedIn_columnsOf (.inr rfl) p
  obtain ⟨sql, items, hsql, hitems, hcompare⟩ := h [⟨"Age", false, none⟩] ⟨[⟨People.ageProperty, false, .first⟩]⟩
    rfl (by simp) People.ada People.bob (hstored People.ada) (hstored People.bob)
  obtain rfl : "\"Age\" ASC" = sql := Except.ok.inj hsql
  have hread : readOrder .postgres "\"Age\" ASC" = some [SortColumn.item ⟨"Age", false, .asc, none⟩] :=
    readOrder_toText .postgres [⟨"Age", .asc, none⟩]
  obtain rfl := Option.some.inj (hread.symm.trans hitems)
  exact absurd hcompare (by decide)

end Sql

end EntityQuery

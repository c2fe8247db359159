import EntityQuery.Proofs.Request.Execution
import EntityQuery.Proofs.Sql.Agreement
import EntityQuery.Proofs.Sql.SortItem

/-!
# SQL and memory order rows alike

Rows are compared by the items of `ORDER BY` from the first to the last (`SortItem.compareRows`). A direction turns
values round, and not nulls: they go where the item says, or else where the dialect puts them
(`Dialect.defaultNulls`). In memory it is the same: nulls are told from values first, and values are compared then
(`OrderKey.compareValues_eq_then`).

Where nulls cannot be placed, an item of its own tells them from values. That is as good: what it does not tell apart
are two nulls or two values, so it does not matter where the item after it puts nulls (`compareNulls_then`).

So the text of an order compares rows as the order does in memory (`renderOrder_compares`), in Postgres if every key
says where nulls go.
-/

namespace EntityQuery

/-! ### Values of a family -/

theorem Value.isNull_of_family? {f : Family} {v : Value} (h : v.family? = some f) : v.isNull = false := by
  cases v with
  | null => cases h
  | _ => rfl

/-- Values of a family are ordered as they compare. -/
theorem Family.compare?_eq_compareValues {f : Family} {v w : Value} (hv : v.family? = some f)
    (hw : w.family? = some f) : v.compare? w = some (f.compareValues v w) := by
  cases v <;> cases hv <;> cases w <;> cases hw <;> rfl

namespace Sql

/-! ### The meaning of an order -/

/-- Where nulls go if nothing is said: null is the greatest value for Postgres, and the least one for the others. -/
def Dialect.defaultNulls (d : Dialect) (dir : SortDirection) : NullsOrder :=
  match d, dir with
  | .postgres, .asc | .mysql, .desc | .sqlite, .desc => .last
  | .postgres, .desc | .mysql, .asc | .sqlite, .asc => .first

namespace Engine

variable (E : Engine)

/-- The order of two values in a database. -/
def order (v w : Value) : Ordering :=
  if E.compare .lt v w = some true then .lt else if E.compare .gt v w = some true then .gt else .eq

/-- The order of two values in a direction. -/
def directed (dir : SortDirection) (v w : Value) : Ordering :=
  match dir with
  | .asc => E.order v w
  | .desc => E.order w v

end Engine

/-- Tells nulls from values. -/
def compareNulls (n : NullsOrder) (v w : Value) : Ordering :=
  match n with
  | .first => compare w.isNull v.isNull
  | .last => compare v.isNull w.isNull

namespace SortItem

variable (E : Engine) (d : Dialect)

/-- Compares two values of the item's expression. -/
def compareValues (i : SortItem) (v w : Value) : Ordering :=
  (compareNulls (i.nulls.getD (d.defaultNulls i.direction)) v w).then (E.directed i.direction v w)

/-- Compares two rows, which are given by their columns, item by item. -/
def compareRows : List SortItem → (Column → Value) → (Column → Value) → Ordering
  | [], _, _ => .eq
  | i :: rest, r, r' =>
    (i.compareValues E d (i.expression.eval E r []) (i.expression.eval E r' [])).then (compareRows rest r r')

variable {E d}

theorem compareRows_append (is js : List SortItem) (r r' : Column → Value) :
    compareRows E d (is ++ js) r r' = (compareRows E d is r r').then (compareRows E d js r r') := by
  induction is with
  | nil => rfl
  | cons i rest ih => rw [List.cons_append, compareRows, compareRows, ih, Ordering.then_assoc]

end SortItem

/-! ### Values -/

namespace Engine

variable (E : Engine) {v w : Value}

theorem order_of_comparable {o : Ordering} (h : v.compare? w = some o) : E.order v w = o := by
  rw [order, E.compare_of_comparable .lt v w o h, E.compare_of_comparable .gt v w o h]
  cases o <;> rfl

theorem order_null : E.order .null .null = .eq := by
  rw [order, E.compare_null_left, E.compare_null_left]
  rfl

/-- False comes before true. -/
theorem order_bool (b c : Bool) : E.order (.bool b) (.bool c) = Ord.compare b c :=
  E.order_of_comparable rfl

end Engine

/-- Nulls that have been told from values need not be told from them again. -/
theorem compareNulls_then (n m : NullsOrder) (v w : Value) (o : Ordering) :
    (compareNulls n v w).then ((compareNulls m v w).then o) = (compareNulls n v w).then o := by
  unfold compareNulls
  cases n <;> cases m <;> cases v.isNull <;> cases w.isNull <;> rfl

end Sql

/-! ### Keys -/

namespace OrderKey

variable {ρ : Type}

/-- The columns of a row hold what the row is sorted by, which is null or of the family that is declared. -/
structure StoredIn (columns : Sql.Column → Value) (r : ρ) (k : OrderKey ρ) : Prop where
  column_eq : columns ⟨[], k.property.name⟩ = k.extract r
  family_eq : k.extract r = .null ∨ (k.extract r).family? = some k.property.type.family

/-- A key tells nulls from values, and then it compares values in its direction. -/
theorem compareValues_eq_then (k : OrderKey ρ) (E : Sql.Engine) {v w : Value}
    (hv : v = .null ∨ v.family? = some k.property.type.family)
    (hw : w = .null ∨ w.family? = some k.property.type.family) :
    k.compareValues v w = (Sql.compareNulls k.nulls v w).then (E.directed k.direction v w) := by
  unfold compareValues Sql.compareNulls
  rcases hv with rfl | hv
  · rcases hw with rfl | hw
    · have hnull : E.directed k.direction .null .null = .eq := by
        cases k.direction <;> exact E.order_null
      rw [hnull]
      cases k.nulls <;> rfl
    · rw [Value.isNull_of_family? hw]
      cases k.nulls <;> rfl
  · rcases hw with rfl | hw
    · rw [Value.isNull_of_family? hv]
      cases k.nulls <;> rfl
    · have hcompare := Family.compare?_eq_compareValues hv hw
      have hswap := (Value.compare?_swap v w).symm.trans (congrArg _ hcompare)
      have hvalues : E.directed k.direction v w =
          if k.descending then (k.property.type.family.compareValues v w).swap
          else k.property.type.family.compareValues v w := by
        rw [direction]
        cases k.descending with
        | true => exact E.order_of_comparable hswap
        | false => exact E.order_of_comparable hcompare
      rw [Value.isNull_of_family? hv, Value.isNull_of_family? hw, hvalues]
      cases k.nulls <;> rfl

end OrderKey

/-- What a key says of nulls, or leaves to the dialect. Only Postgres would decide otherwise. -/
theorem SortKey.effectiveNulls_eq_getD {key : SortKey} {d : Sql.Dialect}
    (h : d = .postgres → key.nulls.isSome = true) :
    key.effectiveNulls = key.nulls.getD (d.defaultNulls key.direction) := by
  unfold effectiveNulls direction
  cases hn : key.nulls with
  | some n => rfl
  | none =>
    cases d with
    | postgres =>
      rw [hn] at h
      cases h rfl
    | mysql | sqlite => cases key.descending <;> rfl

namespace OrderKey

/-- The key with nulls where it is requested that they go, or else where the dialect puts them. -/
def placedBy {ρ : Type} (d : Sql.Dialect) (key : SortKey) (k : OrderKey ρ) : OrderKey ρ :=
  { k with nulls := key.nulls.getD (d.defaultNulls key.direction) }

variable {S : Schema} {t : S.Entity} {d : Sql.Dialect}

theorem placedBy_eq_self {key : SortKey} {k : OrderKey (S.Row t)} (hk : resolve t key = .ok k)
    (h : d = .postgres → key.nulls.isSome = true) : k.placedBy d key = k := by
  rw [placedBy, ← SortKey.effectiveNulls_eq_getD h, ← (resolve_eq_ok hk).2]

theorem zipWith_placedBy {spec : SortSpec} {keys : List (OrderKey (S.Row t))}
    (h : List.Forall₂ (fun key k => resolve t key = .ok k) spec keys) {f : OrderKey (S.Row t) → OrderKey (S.Row t)}
    (hf : ∀ key ∈ spec, ∀ k, resolve t key = .ok k → k.placedBy d key = f k) :
    List.zipWith (placedBy d) spec keys = keys.map f := by
  induction h with
  | nil => rfl
  | cons hk _ ih =>
    rw [List.forall_mem_cons] at hf
    rw [List.zipWith_cons_cons, hf.1 _ hk, ih hf.2, List.map_cons]

end OrderKey

namespace Sql

/-! ### Terms -/

variable {E : Engine} {d : Dialect}

/-- A column compares rows by its values. -/
theorem compareRows_column (name : String) (dir : SortDirection) (n : Option NullsOrder)
    (r r' : Column → Value) :
    SortItem.compareRows E d [SortColumn.item ⟨name, false, dir, n⟩] r r' =
      (compareNulls (n.getD (d.defaultNulls dir)) (r ⟨[], name⟩) (r' ⟨[], name⟩)).then
        (E.directed dir (r ⟨[], name⟩) (r' ⟨[], name⟩)) := by
  have hitem : SortColumn.item ⟨name, false, dir, n⟩ = ⟨.column ⟨[], name⟩, dir, n⟩ := rfl
  rw [hitem, SortItem.compareRows, SortItem.compareRows, Ordering.then_eq, Expression.eval, Expression.eval,
    SortItem.compareValues]

/-- Whether a column is null, in the direction that is meant for nulls, tells nulls from values. -/
theorem compareRows_nullTest (name : String) (n : NullsOrder) (is : List SortItem) (r r' : Column → Value) :
    SortItem.compareRows E d (SortColumn.item ⟨name, true, OrderTerm.nullDirection n, none⟩ :: is) r r' =
      (compareNulls n (r ⟨[], name⟩) (r' ⟨[], name⟩)).then (SortItem.compareRows E d is r r') := by
  have hitem : SortColumn.item ⟨name, true, OrderTerm.nullDirection n, none⟩ =
      ⟨.isNull (.column ⟨[], name⟩), OrderTerm.nullDirection n, none⟩ := rfl
  -- the truth values themselves are not null
  have hnulls : ∀ m b c, compareNulls m (.bool b) (.bool c) = .eq := by
    intro m b c
    cases m <;> rfl
  rw [hitem, SortItem.compareRows, SortItem.compareValues, Expression.eval, Expression.eval, Expression.eval,
    Expression.eval, hnulls]
  cases n with
  | first => exact congrArg (Ordering.then · _) (E.order_bool _ _)
  | last => exact congrArg (Ordering.then · _) (E.order_bool _ _)

/-- The columns that a term is written as compare rows as the term says, in every dialect. -/
theorem compareRows_columns (term : OrderTerm) (r r' : Column → Value) :
    SortItem.compareRows E d ((term.columns d).map SortColumn.item) r r' =
      (compareNulls (term.nulls.getD (d.defaultNulls term.direction)) (r ⟨[], term.name⟩)
        (r' ⟨[], term.name⟩)).then (E.directed term.direction (r ⟨[], term.name⟩) (r' ⟨[], term.name⟩)) := by
  unfold OrderTerm.columns
  cases term.nulls with
  | none => exact compareRows_column _ _ _ _ _
  | some n =>
    cases d.hasNullsOrder with
    | true => exact compareRows_column _ _ _ _ _
    | false =>
      have hcolumn := compareRows_column (E := E) (d := d) term.name term.direction none r r'
      have htest := compareRows_nullTest (E := E) (d := d) term.name n
        [SortColumn.item ⟨term.name, false, term.direction, none⟩] r r'
      rw [hcolumn, compareNulls_then] at htest
      exact htest

/-! ### Orders -/

variable {S : Schema} {t : S.Entity} {r r' : Column → Value} {a b : S.Row t}

/-- The term that is rendered for a key and what it is resolved to. -/
def OrderTerm.ofResolved {ρ : Type} (key : SortKey) (k : OrderKey ρ) : OrderTerm :=
  ⟨k.property.name, key.direction, key.nulls⟩

theorem orderTerms_eq_ok {spec : SortSpec} {keys : List (OrderKey (S.Row t))}
    (h : List.Forall₂ (fun key k => OrderKey.resolve t key = .ok k) spec keys) :
    orderTerms t spec = .ok (List.zipWith OrderTerm.ofResolved spec keys) := by
  induction h with
  | nil => rfl
  | cons hk _ ih =>
    rw [orderTerms, OrderTerm.ofKey, hk, ih]
    rfl

/-- The term of a key compares rows as the key does, with nulls where the dialect reads them to go. -/
theorem compareRows_ofResolved {key : SortKey} {k : OrderKey (S.Row t)} (hk : OrderKey.resolve t key = .ok k)
    (ha : k.StoredIn r a) (hb : k.StoredIn r' b) :
    SortItem.compareRows E d (((OrderTerm.ofResolved key k).columns d).map SortColumn.item) r r' =
      (k.placedBy d key).compare a b := by
  obtain ⟨hdirection, -⟩ := OrderKey.resolve_eq_ok hk
  have hplaced : (k.placedBy d key).compare a b =
      (k.placedBy d key).compareValues (k.extract a) (k.extract b) := rfl
  have hsame : (k.placedBy d key).direction = k.direction := rfl
  rw [compareRows_columns, hplaced, (k.placedBy d key).compareValues_eq_then E ha.family_eq hb.family_eq, hsame,
    hdirection, ← ha.column_eq, ← hb.column_eq]
  rfl

/-- The terms of keys compare rows as the keys do, with nulls where the dialect reads them to go. -/
theorem compareRows_zipWith_placedBy {spec : SortSpec} {keys : List (OrderKey (S.Row t))}
    (h : List.Forall₂ (fun key k => OrderKey.resolve t key = .ok k) spec keys)
    (ha : ∀ k ∈ keys, k.StoredIn r a) (hb : ∀ k ∈ keys, k.StoredIn r' b) :
    SortItem.compareRows E d
        (((List.zipWith OrderTerm.ofResolved spec keys).flatMap (OrderTerm.columns d)).map SortColumn.item) r r' =
      RowOrder.compareRows (List.zipWith (OrderKey.placedBy d) spec keys) a b := by
  induction h with
  | nil => rfl
  | @cons key k spec keys hk _ ih =>
    rw [List.forall_mem_cons] at ha hb
    rw [List.zipWith_cons_cons, List.flatMap_cons, List.map_append, SortItem.compareRows_append,
      compareRows_ofResolved hk ha.1 hb.1, ih ha.2 hb.2, List.zipWith_cons_cons, RowOrder.compareRows]

/-- The terms of keys compare rows as the keys do. -/
theorem compareRows_zipWith {spec : SortSpec} {keys : List (OrderKey (S.Row t))}
    (h : List.Forall₂ (fun key k => OrderKey.resolve t key = .ok k) spec keys)
    (hd : d = .postgres → ∀ key ∈ spec, key.nulls.isSome = true) (ha : ∀ k ∈ keys, k.StoredIn r a)
    (hb : ∀ k ∈ keys, k.StoredIn r' b) :
    SortItem.compareRows E d
        (((List.zipWith OrderTerm.ofResolved spec keys).flatMap (OrderTerm.columns d)).map SortColumn.item) r r' =
      RowOrder.compareRows keys a b := by
  have hplaced : List.zipWith (OrderKey.placedBy d) spec keys = keys.map id :=
    OrderKey.zipWith_placedBy h fun key hkey k hk => OrderKey.placedBy_eq_self hk fun hpg => hd hpg key hkey
  rw [compareRows_zipWith_placedBy h ha hb, hplaced, List.map_id]

/-- The text that a requested order is rendered to, read by the grammar of the dialect, compares two rows as the
order does in memory. In Postgres every key has to say where nulls go. -/
theorem renderOrder_compares {most : Nat} {spec : SortSpec} {o : RowOrder (S.Row t)}
    (ho : RowOrder.ofSpec most t spec = .ok o) (hd : d = .postgres → ∀ key ∈ spec, key.nulls.isSome = true)
    (ha : ∀ k ∈ o.keys, k.StoredIn r a) (hb : ∀ k ∈ o.keys, k.StoredIn r' b) :
    ∃ sql items, renderOrder d t spec = .ok sql ∧ readOrder d sql = some items ∧
      SortItem.compareRows E d items r r' = o.compare a b := by
  have hkeys := RowOrder.ofSpec_eq_ok ho
  refine ⟨_, _, ?_, readOrder_toText d (List.zipWith OrderTerm.ofResolved spec o.keys),
    compareRows_zipWith hkeys hd ha hb⟩
  rw [renderOrder, orderTerms_eq_ok hkeys]
  rfl

/-- In MySQL, people whose age is not known are first if it is said so, though older people come before younger
ones. -/
theorem renderOrder_compares_age : ∃ o sql items,
    RowOrder.ofSpec 8 People.person [⟨"Age", true, some .first⟩, ⟨"Name", false, none⟩] = .ok o ∧
    renderOrder .mysql People.person [⟨"Age", true, some .first⟩, ⟨"Name", false, none⟩] = .ok sql ∧
    readOrder .mysql sql = some items ∧ o.compare People.ada People.bob = .lt ∧
    SortItem.compareRows Engine.standard .mysql items (People.columnsOf People.ada)
      (People.columnsOf People.bob) = o.compare People.ada People.bob := by
  have hstored : ∀ p : People.Person, ∀ k ∈ [(⟨People.ageProperty, true, .first⟩ : OrderKey People.Person),
      ⟨People.nameProperty, false, .first⟩], k.StoredIn (People.columnsOf p) p := by
    intro p k hk
    simp only [List.mem_cons, List.not_mem_nil, or_false] at hk
    rcases hk with rfl | rfl
    · exact ⟨rfl, p.readAge_eq_null_or⟩
    · exact ⟨rfl, .inr rfl⟩
  obtain ⟨sql, items, hsql, hitems, hcompare⟩ := renderOrder_compares (E := Engine.standard) (d := .mysql)
    (show RowOrder.ofSpec 8 People.person [⟨"Age", true, some .first⟩, ⟨"Name", false, none⟩] = .ok _ from rfl)
    nofun (hstored People.ada) (hstored People.bob)
  exact ⟨_, sql, items, rfl, hsql, hitems, rfl, hcompare⟩

end Sql

end EntityQuery

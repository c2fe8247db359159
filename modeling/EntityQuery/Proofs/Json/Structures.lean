import EntityQuery.Json.Fields
import EntityQuery.Proofs.Json.Spelling

/-!
# Structures are read as they are written

A structure is written as an object, without the fields that have nothing to say (`Json.ofFields`). A reader that asks
for the fields by name is given back which are there and which are not (`Json.fields?_ofFields`), so it can tell a field
that was left out from every other. What it makes of a field is for the readers of fields, of which each is given back
what was written (`Json.list?_map`, `Json.defaulted?_nullable?_map`).
-/

namespace EntityQuery.Json

/-- The entries of the fields that are there. -/
def fieldEntries (fields : List (String × Option Json)) : List (Text × Json) :=
  fields.flatMap fun f => f.2.toList.map (Prod.mk (some f.1))

/-- The object of the fields that are there. -/
def ofFields (fields : List (String × Option Json)) : Json := .object (fieldEntries fields)

variable {fields : List (String × Option Json)}

theorem fieldEntries_cons (f : String × Option Json) (fields : List (String × Option Json)) :
    fieldEntries (f :: fields) = f.2.toList.map (Prod.mk (some f.1)) ++ fieldEntries fields := List.flatMap_cons

theorem mem_fieldEntries {e : Text × Json} :
    e ∈ fieldEntries fields ↔ ∃ f ∈ fields, f.2 = some e.2 ∧ e.1 = some f.1 := by
  obtain ⟨key, j⟩ := e
  simp only [fieldEntries, List.mem_flatMap, List.mem_map, Option.mem_toList, Prod.mk.injEq]
  constructor
  · rintro ⟨f, hf, j', hj, rfl, rfl⟩
    exact ⟨f, hf, hj, rfl⟩
  · rintro ⟨f, hf, hj, rfl⟩
    exact ⟨f, hf, j, hj, rfl, rfl⟩

/-! ### Fields by name -/

theorem entriesOf_append (key : String) (es es' : List (Text × Json)) :
    entriesOf key (es ++ es') = entriesOf key es ++ entriesOf key es' := by
  rw [entriesOf, List.filter_append, List.map_append, entriesOf, entriesOf]

theorem entriesOf_eq_nil {key : String} {es : List (Text × Json)} (h : ∀ e ∈ es, e.1 ≠ some key) :
    entriesOf key es = [] := by
  rw [entriesOf, List.map_eq_nil_iff, List.filter_eq_nil_iff]
  intro e he
  simpa using h e he

theorem entriesOf_map_mk (key : String) (js : List Json) : entriesOf key (js.map (Prod.mk (some key))) = js := by
  induction js with
  | nil => rfl
  | cons j js ih =>
    rw [entriesOf] at ih ⊢
    rw [List.map_cons, List.filter_cons_of_pos (by simp), List.map_cons, ih]

/-- Under the name of a field stands what it says, if no other field has the name. -/
theorem entriesOf_fieldEntries (h : (fields.map Prod.fst).Nodup) {f : String × Option Json} (hf : f ∈ fields) :
    entriesOf f.1 (fieldEntries fields) = f.2.toList := by
  induction fields with
  | nil => cases hf
  | cons g fields ih =>
    rw [List.map_cons, List.nodup_cons] at h
    obtain ⟨hg, hrest⟩ := h
    rw [fieldEntries_cons, entriesOf_append]
    rcases List.mem_cons.mp hf with rfl | hf
    · have hnone : entriesOf f.1 (fieldEntries fields) = [] := by
        refine entriesOf_eq_nil fun e he hkey => ?_
        obtain ⟨f', hf', -, hname⟩ := mem_fieldEntries.mp he
        rw [hkey] at hname
        exact hg (Option.some.inj hname ▸ List.mem_map_of_mem hf')
      rw [entriesOf_map_mk, hnone, List.append_nil]
    · have hnone : entriesOf f.1 (g.2.toList.map (Prod.mk (some g.1))) = [] := by
        refine entriesOf_eq_nil fun e he hkey => ?_
        obtain ⟨j, -, rfl⟩ := List.mem_map.mp he
        exact hg (Option.some.inj hkey ▸ List.mem_map_of_mem hf)
      rw [hnone, List.nil_append, ih hrest hf]

theorem byName_of_entriesOf {entries : List (Text × Json)} {gs : List (String × Option Json)}
    (h : ∀ f ∈ gs, entriesOf f.1 entries = f.2.toList) : byName entries (gs.map Prod.fst) = some (gs.map Prod.snd) := by
  induction gs with
  | nil => rfl
  | cons f gs ih =>
    obtain ⟨name, value⟩ := f
    have hf : entriesOf name entries = value.toList := h (name, value) (List.mem_cons_self ..)
    have hrest := ih fun g hg => h g (List.mem_cons_of_mem _ hg)
    cases value with
    | none => simp [byName, hf, hrest]
    | some j => simp [byName, hf, hrest]

/-- The fields of a structure are given back, those that were left out as such. -/
theorem fields?_ofFields (n : Style) (closed : Bool) (h : (fields.map Prod.fst).Nodup) :
    fields? n closed (fields.map Prod.fst) (ofFields fields) = some (fields.map Prod.snd) := by
  have hkeys : (fieldEntries fields).all (fun e => e.1.isSome &&
      (!closed || (fields.map Prod.fst).any fun name => e.1 == some name)) = true := by
    rw [List.all_eq_true]
    intro e he
    obtain ⟨f, hf, -, hname⟩ := mem_fieldEntries.mp he
    have hany : (fields.map Prod.fst).any (fun name => e.1 == some name) = true :=
      List.any_eq_true.mpr ⟨f.1, List.mem_map_of_mem hf, by simp [hname]⟩
    rw [hany, hname, Bool.or_true, Option.isSome_some, Bool.and_self]
  rw [ofFields, fields?, if_pos hkeys]
  exact byName_of_entriesOf fun f hf => entriesOf_fieldEntries h hf

theorem WellFormed.ofFields (h : ∀ f ∈ fields, ∀ j ∈ f.2, WellFormed j) : (ofFields fields).WellFormed := by
  refine .object ?_ ?_
  · intro e he
    obtain ⟨f, -, -, hname⟩ := mem_fieldEntries.mp he
    rw [hname]
    rfl
  · intro e he
    obtain ⟨f, hf, hvalue, -⟩ := mem_fieldEntries.mp he
    exact h f hf e.2 hvalue

/-! ### Readers of fields -/

variable {α : Type} {read : Json → Option α} {write : α → Json}

@[simp] theorem required?_some (j : Json) : required? read (some j) = read j := rfl

@[simp] theorem defaulted?_some (default : α) (j : Json) : defaulted? read default (some j) = read j := rfl

@[simp] theorem text?_ofString (s : String) : text? (ofString s) = some s := rfl

@[simp] theorem bool?_bool (b : Bool) : bool? (.bool b) = some b := rfl

theorem choice?_ofString {n : Style} {table : List (String × α)} {s : String} {a : α} (h : table.lookup s = some a) :
    choice? n table (ofString s) = some a := h

/-- A list is read item by item. -/
theorem list?_map {as : List α} (h : ∀ a ∈ as, read (write a) = some a) :
    list? read (.array (as.map write)) = some as := by
  rw [list?]
  induction as with
  | nil => rfl
  | cons a as ih =>
    have hrest := ih fun b hb => h b (List.mem_cons_of_mem a hb)
    rw [List.map_cons, List.mapM_cons, h a (List.mem_cons_self ..), hrest]
    rfl

/-- A field that is left out if it has no value is read, unless a value is written as null. -/
theorem defaulted?_nullable?_map {o : Option α} (h : ∀ a ∈ o, read (write a) = some a)
    (hnull : ∀ a ∈ o, write a ≠ .null) : defaulted? (nullable? read) none (o.map write) = some o := by
  cases o with
  | none => rfl
  | some a =>
    have hread : nullable? read (write a) = (read (write a)).map some := by
      rw [nullable?.eq_def]
      split
      · rename_i hwrite
        exact absurd hwrite (hnull a rfl)
      · rfl
    rw [Option.map_some, defaulted?, hread, h a rfl, Option.map_some]

end EntityQuery.Json

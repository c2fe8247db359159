import EntityQuery.Error
import EntityQuery.Text.Record
import EntityQuery.Value.Basic

/-!
# Schemas

A schema names the types of entities of an application, says what a row of each type is, and lists the
properties of each type by which its rows can be filtered and sorted. Properties are looked up by their
exact names, and keep the order in which they were registered.
-/

namespace EntityQuery

/-! ### Properties -/

/-- A named property of rows of type `ρ`. -/
structure Property (ρ : Type) where
  name : String
  type : PropertyType
  read : ρ → Value

/-- The properties of one type of entities. No two have the same name. -/
structure Metadata (ρ : Type) where
  name : String
  properties : List (Property ρ) := []
  nodup : (properties.map Property.name).Nodup := by simp

namespace Metadata

variable {ρ : Type}

/-- The names of all properties. -/
def names (m : Metadata ρ) : List String := m.properties.map Property.name

/-- Puts a property in the place of the one of the same name, or at the end if there is none. -/
def place (p : Property ρ) : List (Property ρ) → List (Property ρ)
  | [] => [p]
  | q :: rest => if q.name = p.name then p :: rest else q :: place p rest

theorem map_name_place (p : Property ρ) (ps : List (Property ρ)) :
    (place p ps).map Property.name =
      if p.name ∈ ps.map Property.name then ps.map Property.name
      else ps.map Property.name ++ [p.name] := by
  induction ps with
  | nil => simp [place]
  | cons q rest ih =>
    by_cases h : q.name = p.name
    · simp [place, h]
    · have h' : ¬p.name = q.name := fun e => h e.symm
      simp only [place, h, if_false, List.map_cons, ih, List.mem_cons, h', false_or]
      split <;> simp

theorem nodup_place (p : Property ρ) {ps : List (Property ρ)}
    (h : (ps.map Property.name).Nodup) : ((place p ps).map Property.name).Nodup := by
  rw [map_name_place]
  split
  · exact h
  · rename_i hp
    exact List.nodup_append.2 ⟨h, by simp, by
      intro a ha b hb
      simp only [List.mem_singleton] at hb
      subst hb
      exact fun e => hp (e ▸ ha)⟩

/-- Registers a property. A second property of the same name takes the place of the first. -/
def register (m : Metadata ρ) (p : Property ρ) : Metadata ρ :=
  { m with properties := place p m.properties, nodup := nodup_place p m.nodup }

/-- The property of a given name. -/
def find? (m : Metadata ρ) (name : String) : Option (Property ρ) :=
  m.properties.find? fun p => p.name == name

/-- The property of a given name, or the error that there is none. -/
def resolve (m : Metadata ρ) (name : String) : Result (Property ρ) :=
  match m.find? name with
  | some p => .ok p
  | none => .error (.propertyNotFound m.name name m.names)

/-- How many properties there are. -/
def size (m : Metadata ρ) : Nat := m.properties.length

@[simp] theorem name_register (m : Metadata ρ) (p : Property ρ) : (m.register p).name = m.name := rfl

theorem resolve_eq_ok_iff {m : Metadata ρ} {name : String} {p : Property ρ} :
    m.resolve name = .ok p ↔ m.find? name = some p := by
  unfold resolve
  split <;> simp_all

theorem name_of_find? {m : Metadata ρ} {name : String} {p : Property ρ}
    (h : m.find? name = some p) : p.name = name := by
  simpa using List.find?_some h

end Metadata

/-- A property as it is shown for diagnosis. -/
def Property.toText {ρ : Type} (p : Property ρ) : String :=
  let shape := match p.type.shape with
    | .scalar => "Scalar"
    | .optional => "Optional"
    | .collection => "Collection"
  Text.recordText "Property" [⟨"name", Text.quoted p.name⟩,
    ⟨"ty", Text.recordText "PropertyType" [⟨"family", p.type.family.name⟩, ⟨"shape", shape⟩]⟩]

/-! ### Schemas -/

/-- The types of entities of an application. -/
structure Schema where
  Entity : Type
  [decidableEq : DecidableEq Entity]
  Row : Entity → Type
  metadata : (e : Entity) → Metadata (Row e)

namespace Schema

instance (S : Schema) : DecidableEq S.Entity := S.decidableEq

/-- The name of a type of entities. -/
def nameOf (S : Schema) (e : S.Entity) : String := (S.metadata e).name

/-- A row of whichever type. -/
structure AnyRow (S : Schema) where
  entity : S.Entity
  row : S.Row entity

variable {S : Schema}

/-- The row itself, if it is one of the given type. -/
def AnyRow.as? (x : AnyRow S) (e : S.Entity) : Option (S.Row e) :=
  if h : x.entity = e then some (h ▸ x.row) else none

@[simp] theorem AnyRow.as?_mk (e : S.Entity) (r : S.Row e) : AnyRow.as? ⟨e, r⟩ e = some r := by
  simp [AnyRow.as?]

end Schema

end EntityQuery

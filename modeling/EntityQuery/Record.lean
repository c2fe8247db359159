import EntityQuery.Schema

/-!
# Records

Rows whose fields are looked up by name. A field that a record does not have is null, and a record that
another does not have is empty. Schemas of records are given by declarations, so that entities can be
described by data.
-/

namespace EntityQuery

/-- A row with named fields and nested rows, and a number by which it is recognised. A nested row is kept
under its label and the number of its type. -/
inductive Record where
  | mk (number : Nat) (fields : List (String × Value)) (children : List ((String × Nat) × Record))

namespace Record

/-- A record without fields. -/
def empty : Record := ⟨0, [], []⟩

/-- The number by which a record is recognised. -/
def number : Record → Nat
  | mk n _ _ => n

/-- The value of a field. -/
def field (name : String) : Record → Value
  | mk _ fields _ => (fields.lookup name).getD .null

/-- The nested record of a type under a label. A record of another type under that label is not found. -/
def child (label : String) (type : Nat) : Record → Record
  | mk _ _ children => (children.lookup (label, type)).getD empty

end Record

/-! ### Declarations -/

/-- A property that reads a field of records. -/
structure PropertyDecl where
  name : String
  type : PropertyType
  column : String

/-- The property that reads a record's field. -/
def PropertyDecl.toProperty (d : PropertyDecl) : Property Record := ⟨d.name, d.type, Record.field d.column⟩

/-- A type of records. -/
structure EntityDecl where
  name : String
  properties : List PropertyDecl := []
  /-- The number of the type of the records under each label. -/
  children : List (String × Nat) := []

/-- The properties of a declared type, registered in their order. -/
def EntityDecl.metadata (d : EntityDecl) : Metadata Record :=
  d.properties.foldl (fun m p => m.register p.toProperty) { name := d.name }

/-- The schema of declared types, which are known by their numbers. -/
def Schema.ofDecls (decls : List EntityDecl) : Schema where
  Entity := Nat
  Row _ := Record
  metadata e := (decls.getD e { name := "" }).metadata

end EntityQuery

import EntityQuery.Record
import EntityQuery.Text.Naming
import EntityQuery.Value.Storage

/-!
# Declared structures

The entity that belongs to a structure is derived from the structure's declaration: each field becomes a
property, named after the field by a convention. Annotations change the name of the entity, the
convention and the name of a single property, and leave fields out.
-/

namespace EntityQuery

open Text (NamingRule)

/-! ### Declarations -/

/-- A setting of a declaration: a key, alone or with a text. -/
structure Annotation where
  key : String
  text : Option String

/-- A field, its values being of one family. -/
structure DeclaredField where
  identifier : String
  family : Family
  storage : Storage
  annotations : List Annotation := []

/-- What is between the braces of a declaration. -/
inductive DeclarationBody where
  | fields (fs : List DeclaredField)
  /-- Fields without names, or none. -/
  | unnamed
  /-- A type that is no structure. -/
  | notStructure

/-- A declared type with its annotations, from which an entity can be derived. -/
structure Declaration where
  identifier : String
  /-- Whether the declaration has parameters. -/
  generic : Bool := false
  annotations : List Annotation := []
  body : DeclarationBody

/-! ### Faults -/

/-- Why no entity belongs to a declaration. -/
inductive DeclarationError where
  | generic
  | unnamedFields
  | notStructure
  | unknownRule (name : String)
  /-- A key that means nothing at a structure. -/
  | unsupportedOnStructure
  /-- A key that means nothing at a field. -/
  | unsupportedOnField
  /-- A character that has to follow a key. -/
  | expected (c : Char)
  | duplicateProperty (name : String)
  deriving DecidableEq

/-- The fault as it is reported to the author of the declaration. -/
def DeclarationError.message : DeclarationError → String
  | generic => "Entity derive does not support generic structs"
  | unnamedFields => "Entity derive only supports structs with named fields"
  | notStructure => "Entity derive only supports structs"
  | unknownRule name => s!"Unknown rename_all rule '{name}'"
  | unsupportedOnStructure =>
    "unsupported sift attribute; expected \x60name\x60 or \x60rename_all\x60"
  | unsupportedOnField => "unsupported sift attribute; expected \x60rename\x60 or \x60skip\x60"
  | expected c => s!"expected \x60{c}\x60"
  | duplicateProperty name => s!"Duplicate property name '{name}'"

/-! ### Annotations -/

/-- The text of an annotation that needs one. -/
def Annotation.needText (a : Annotation) : Except DeclarationError String :=
  match a.text with
  | some s => .ok s
  | none => .error (.expected '=')

/-- What the annotations of a structure set. -/
structure DeclarationSettings where
  name : Option String := none
  rule : NamingRule := .pascal

/-- The settings after one more annotation. A later annotation overrides an earlier one. -/
def DeclarationSettings.add (s : DeclarationSettings) (a : Annotation) :
    Except DeclarationError DeclarationSettings :=
  match a.key with
  | "name" => do .ok { s with name := some (← a.needText) }
  | "rename_all" => do
    let name ← a.needText
    match NamingRule.ofName? name with
    | some rule => .ok { s with rule }
    | none => .error (.unknownRule name)
  | _ => .error .unsupportedOnStructure

/-- What the annotations of a field set: the name of its property, and whether there is one. -/
structure FieldSettings where
  name : String
  skip : Bool := false

/-- The settings after one more annotation. A later annotation overrides an earlier one. -/
def FieldSettings.add (s : FieldSettings) (a : Annotation) : Except DeclarationError FieldSettings :=
  match a.key with
  | "skip" => if a.text.isNone then .ok { s with skip := true } else .error (.expected ',')
  | "rename" => do .ok { s with name := ← a.needText }
  | _ => .error .unsupportedOnField

/-! ### Properties -/

/-- The name that an identifier stands for: a mark that makes a reserved word an identifier is no part
of it. -/
def plainIdentifier (identifier : String) : String :=
  match identifier.toList with
  | 'r' :: '#' :: rest => .ofList rest
  | _ => identifier

/-- The property of a field, unless it is left out. -/
def DeclaredField.property? (rule : NamingRule) (f : DeclaredField) :
    Except DeclarationError (Option PropertyDecl) := do
  let s ← f.annotations.foldlM FieldSettings.add { name := rule.apply (plainIdentifier f.identifier) }
  .ok (if s.skip then none else some ⟨s.name, f.storage.propertyType f.family, f.identifier⟩)

/-- The properties of fields, where properties with the names `seen` come before. No two have the same
name. -/
def propertiesAfter (rule : NamingRule) (seen : List String) :
    List DeclaredField → Except DeclarationError (List PropertyDecl)
  | [] => .ok []
  | f :: rest => do
    match ← f.property? rule with
    | none => propertiesAfter rule seen rest
    | some p =>
      if p.name ∈ seen then .error (.duplicateProperty p.name)
      else
        let ps ← propertiesAfter rule (p.name :: seen) rest
        .ok (p :: ps)

namespace Declaration

/-- The named fields of a declaration, if it is a structure that can have an entity. -/
def fields (d : Declaration) : Except DeclarationError (List DeclaredField) :=
  if d.generic then .error .generic
  else
    match d.body with
    | .fields fs => .ok fs
    | .unnamed => .error .unnamedFields
    | .notStructure => .error .notStructure

/-- The entity of a declaration. Its properties read the fields they are made from. -/
def toEntity (d : Declaration) : Except DeclarationError EntityDecl := do
  let fs ← d.fields
  let s ← d.annotations.foldlM DeclarationSettings.add {}
  let ps ← propertiesAfter s.rule [] fs
  .ok ⟨s.name.getD d.identifier, ps, []⟩

end Declaration

end EntityQuery

import EntityQuery.Record
import EntityQuery.Request.Wire
import EntityQuery.Value.Tagged

/-!
# Records in JSON

Declarations of records and the records themselves. A record is an object whose keys are its fields and
the labels of the records nested in it; the declaration of its type says which keys are labels.
-/

namespace EntityQuery

/-- Reads the declaration of a property. Without a shape it holds one value, and without a column it
reads the field of its own name. -/
def PropertyDecl.ofJson? (j : Json) : Option PropertyDecl := do
  let name ← j.get? "name" >>= Json.text?
  let family ← j.get? "type" >>= Json.text? >>= (List.lookup · Family.wireNames)
  let shape ← match j.get? "shape" with
    | none => some .scalar
    | some s => Json.text? s >>= (List.lookup · Shape.wireNames)
  some ⟨name, ⟨family, shape⟩, (j.get? "column" >>= Json.text?).getD name⟩

/-- Reads the declaration of a type of records. -/
def EntityDecl.ofJson? (j : Json) : Option EntityDecl := do
  let name ← j.get? "name" >>= Json.text?
  let properties ← ((j.get? "props" >>= Json.items?).getD []).mapM PropertyDecl.ofJson?
  let children ← ((j.get? "children").getD .null).entries.mapM fun (label, target) =>
    target.nat?.map fun n => (label, n)
  some ⟨name, properties, children⟩

/-- The labels of the records nested in records of a type, with the types of those records. -/
def childrenOf (decls : List EntityDecl) (e : Nat) : List (String × Nat) :=
  (decls[e]?.map EntityDecl.children).getD []

mutual

/-- Reads a record of a type. -/
def Record.ofJson? (decls : List EntityDecl) (e number : Nat) : Json → Option Record
  | .object entries => do
    let (fields, nested) ← Record.partsOfJson? decls (childrenOf decls e) entries
    some ⟨number, fields, nested⟩
  | _ => none

/-- Reads the fields of a record and the records nested in it. -/
def Record.partsOfJson? (decls : List EntityDecl) (labels : List (String × Nat)) :
    List (Json.Text × Json) → Option (List (String × Value) × List ((String × Nat) × Record))
  | [] => some ([], [])
  | (none, _) :: _ => none
  | (some key, j) :: rest => do
    let (fields, nested) ← Record.partsOfJson? decls labels rest
    match labels.lookup key with
    | some target =>
      let r ← Record.ofJson? decls target 0 j
      some (fields, ((key, target), r) :: nested)
    | none =>
      let v ← Value.ofTagged? j
      some ((key, v) :: fields, nested)

end

/-- Reads records of a type and numbers them in their order. -/
def Record.listOfJson? (decls : List EntityDecl) (e : Nat) (items : List Json) : Option (List Record) :=
  items.zipIdx.mapM fun (j, i) => Record.ofJson? decls e i j

end EntityQuery

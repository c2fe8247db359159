import EntityQuery.Json.Fields
import EntityQuery.Json.Number
import EntityQuery.Json.Writer
import EntityQuery.Request.Plan

/-!
# Requests in JSON

How requests and their parts are transmitted. Names of choices have aliases, which are read but never
written. A field that says nothing is left out: a missing literal, no literals, no placement of nulls.
-/

namespace EntityQuery

open Json (Style)

/-! ### Choices -/

/-- The names of families. -/
def Family.wireNames : List (String × Family) :=
  [("String", .string), ("string", .string),
    ("Integer", .integer), ("integer", .integer), ("Int", .integer), ("int", .integer),
    ("Decimal", .decimal), ("decimal", .decimal),
    ("Boolean", .boolean), ("boolean", .boolean), ("Bool", .boolean), ("bool", .boolean),
    ("DateTime", .dateTime), ("datetime", .dateTime), ("dateTime", .dateTime), ("Date", .dateTime),
    ("date", .dateTime),
    ("Uuid", .uuid), ("uuid", .uuid), ("Guid", .uuid), ("guid", .uuid)]

/-- The names of shapes. -/
def Shape.wireNames : List (String × Shape) :=
  [("scalar", .scalar), ("optional", .optional), ("collection", .collection)]

/-- The names of ways to compare texts. -/
def CaseMode.wireNames : List (String × CaseMode) :=
  [("ordinal", .ordinal), ("Ordinal", .ordinal), ("ignore_case", .ignoreCase),
    ("IgnoreCase", .ignoreCase), ("ignoreCase", .ignoreCase)]

/-- The names of operators. -/
def FilterOperator.wireNames : List (String × FilterOperator) :=
  FilterOperator.all.map fun op => (op.name, op)

/-- The names of directions. -/
def SortDirection.wireNames : List (String × SortDirection) := [("asc", .asc), ("desc", .desc)]

/-- The names of placements of nulls. -/
def NullsOrder.wireNames : List (String × NullsOrder) := [("first", .first), ("last", .last)]

/-- How a direction is transmitted. -/
def SortDirection.wireName : SortDirection → String
  | asc => "asc"
  | desc => "desc"

/-- How a place of nulls is transmitted. -/
def NullsOrder.wireName : NullsOrder → String
  | first => "first"
  | last => "last"

/-- A number of rows or the like: a whole number of 64 bits without a sign. -/
def Json.size? : Json → Option Nat
  | .number n => n.integer? >>= fun i => if 0 ≤ i then some i.toNat else none
  | _ => none

/-- Entries of an object that are there only if there is something to say. -/
def Json.optionalEntry {α : Type} (key : String) (f : α → Json) : Option α → List (Json.Text × Json)
  | none => []
  | some a => [(some key, f a)]

/-! ### Property types -/

/-- Reads the type of a property. -/
def PropertyType.ofJson? (j : Json) : Option PropertyType := do
  match ← Json.fields? Json.jsonStyle false ["family", "shape"] j with
  | [family, shape] =>
    let family ← Json.required? (Json.choice? Json.jsonStyle Family.wireNames) family
    let shape ← Json.required? (Json.choice? Json.jsonStyle Shape.wireNames) shape
    some ⟨family, shape⟩
  | _ => none

/-- The document of the type of a property. -/
def PropertyType.toJson (t : PropertyType) : Json :=
  .object [(some "family", .ofString t.family.name), (some "shape", .ofString t.shape.name)]

/-! ### Filters -/

namespace FilterSpec

/-- The keys of a filter, in the order of an array that stands for one. -/
def fieldNames : List String := ["propertyName", "declaredType", "operator", "value", "values"]

/-- Reads a filter. Only its literals may be absent. -/
def ofJson? (j : Json) : Option FilterSpec := do
  match ← Json.fields? Json.jsonStyle false fieldNames j with
  | [name, type, op, value, values] =>
    let name ← Json.required? Json.text? name
    let type ← Json.required? (Json.choice? Json.jsonStyle Family.wireNames) type
    let op ← Json.required? (Json.choice? Json.jsonStyle FilterOperator.wireNames) op
    let value ← Json.defaulted? (Json.nullable? Json.text?) none value
    let values ← Json.defaulted? (Json.list? Json.text?) [] values
    some ⟨name, type, op, value, values⟩
  | _ => none

/-- The document of a filter. Literals that are absent are left out. -/
def toJson (f : FilterSpec) : Json :=
  .object ([(some "propertyName", .ofString f.propertyName),
    (some "declaredType", .ofString f.declaredType.name),
    (some "operator", .ofString f.operator.name)] ++
    Json.optionalEntry "value" Json.ofString f.value ++
    (if f.values.isEmpty then [] else [(some "values", .array (f.values.map Json.ofString))]))

end FilterSpec

/-! ### Sort keys -/

namespace SortKey

/-- The keys of a sort key, in the order of an array that stands for one. -/
def fieldNames : List String := ["propertyName", "descending", "nulls"]

/-- Reads a sort key, which is ascending if it does not say so. -/
def ofJson? (j : Json) : Option SortKey := do
  match ← Json.fields? Json.jsonStyle false fieldNames j with
  | [name, descending, nulls] =>
    let name ← Json.required? Json.text? name
    let descending ← Json.defaulted? Json.bool? false descending
    let nulls ← Json.defaulted?
      (Json.nullable? (Json.choice? Json.jsonStyle NullsOrder.wireNames)) none nulls
    some ⟨name, descending, nulls⟩
  | _ => none

/-- The document of a sort key. The place of nulls is left out if the key does not say it. -/
def toJson (k : SortKey) : Json :=
  .object ([(some "propertyName", .ofString k.propertyName), (some "descending", .bool k.descending)] ++
    Json.optionalEntry "nulls" (fun n : NullsOrder => .ofString n.wireName) k.nulls)

end SortKey

namespace SortSpec

/-- Reads a list of sort keys. -/
def ofJson? : Json → Option SortSpec := Json.list? SortKey.ofJson?

/-- The document of a list of sort keys. -/
def toJson (s : SortSpec) : Json := .array (s.map SortKey.toJson)

end SortSpec

/-! ### Requests -/

namespace QueryRequest

/-- The keys of a request, in the order of an array that stands for one. -/
def fieldNames : List String := ["filters", "sort", "skip", "take"]

/-- Reads a request. Every part of it may be absent. -/
def ofJson? (j : Json) : Option QueryRequest := do
  match ← Json.fields? Json.jsonStyle false fieldNames j with
  | [filters, sort, skip, take] =>
    let filters ← Json.defaulted? (Json.list? FilterSpec.ofJson?) [] filters
    let sort ← Json.defaulted? SortSpec.ofJson? [] sort
    let skip ← Json.defaulted? (Json.nullable? Json.size?) none skip
    let take ← Json.defaulted? (Json.nullable? Json.size?) none take
    some ⟨filters, sort, skip, take⟩
  | _ => none

/-- The document of a request. The numbers of rows are left out where they are absent. -/
def toJson (r : QueryRequest) : Json :=
  .object ([(some "filters", .array (r.filters.map FilterSpec.toJson)),
    (some "sort", SortSpec.toJson r.sort)] ++
    Json.optionalEntry "skip" Json.ofNat r.skip ++ Json.optionalEntry "take" Json.ofNat r.take)

/-- The error that a text is no request, for the reason that the reader of documents gives. -/
def malformed (reason : String) : QueryError :=
  (QueryError.invalidRequest s!"Malformed query request: {reason}").withSource

/-- Reads a request. The reader of documents explains in its own words why a text is none. -/
def parse (explain : String → String) (s : String) : Result QueryRequest :=
  match Json.read? s.toList >>= ofJson? with
  | some r => .ok r
  | none => .error (malformed (explain s))

/-- Reads a request, without an explanation if the text is none. -/
def ofJsonText (s : String) : Result QueryRequest := parse QueryError.elide s

/-- A request as JSON text. -/
def toJsonText (r : QueryRequest) : String := r.toJson.toText

end QueryRequest

end EntityQuery

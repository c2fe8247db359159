import EntityQuery.Error
import EntityQuery.Json.Access

/-!
# Errors in JSON

An error is transmitted as an object with its code and message, and of its circumstances those that are
known.
-/

namespace EntityQuery.QueryError

/-- An entry that is there only if its text is known. -/
def knownText (key : String) (text : Option String) : List (String × Json) :=
  (text.map fun s => (key, Json.ofString s)).toList

/-- The entries of an error. -/
def toEntries (e : QueryError) : List (String × Json) :=
  let c := e.context
  [("error", .ofString e.code.name), ("message", .ofString e.message)] ++
    knownText "operation" c.operation ++ knownText "entity" c.entity ++
    knownText "property" c.property ++ knownText "tree" c.tree ++ knownText "help" c.help ++
    (if c.suggestions.isEmpty then []
      else [("suggestions", .array (c.suggestions.map Json.ofString))]) ++
    (if e.hasSource then [("source", .bool true)] else [])

/-- The document of an error. -/
def toJson (e : QueryError) : Json := .ofEntries e.toEntries

end EntityQuery.QueryError

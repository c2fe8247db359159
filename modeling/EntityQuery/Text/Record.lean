import EntityQuery.Text.Quoted

/-!
# Records as text

How a structured value is shown for diagnosis: its name and, between braces, its fields by name.
-/

namespace EntityQuery.Text

/-- A field of a record, its value already shown. -/
structure ShownField where
  name : String
  shown : String

/-- A field as it is shown. -/
def ShownField.toText (f : ShownField) : String := f.name ++ ": " ++ f.shown

/-- A record with its fields. -/
def recordText (name : String) (fields : List ShownField) : String :=
  name ++ " \x7b " ++ ", ".intercalate (fields.map ShownField.toText) ++ " \x7d"

/-- A list of things already shown. -/
def listText (items : List String) : String := "[" ++ ", ".intercalate items ++ "]"

end EntityQuery.Text

import EntityQuery.Text.Words

/-!
# Naming conventions

A convention says how the words of a name are written and what stands between them.
-/

namespace EntityQuery.Text

/-- A convention by which properties are named after fields. -/
inductive NamingRule where
  /-- The name of the field as it is. -/
  | verbatim
  | pascal
  | camel
  | snake
  | screamingSnake
  | kebab
  | flat
  | upperFlat
  deriving DecidableEq, Repr

namespace NamingRule

/-- The names by which conventions are asked for. -/
def names : List (String × NamingRule) :=
  [("verbatim", verbatim), ("PascalCase", pascal), ("camelCase", camel), ("snake_case", snake),
    ("SCREAMING_SNAKE_CASE", screamingSnake), ("kebab-case", kebab), ("lowercase", flat),
    ("UPPERCASE", upperFlat)]

/-- The rule of a given name. -/
def ofName? (name : String) : Option NamingRule := names.lookup name

/-- The words of a name with the first one in lower case and the others capitalized. -/
def camelWords : List (List Char) → List (List Char)
  | [] => []
  | first :: rest => lowerChars first :: rest.map capitalize

/-- A name, given by its characters, in a convention. -/
def applyChars (rule : NamingRule) (name : List Char) : List Char :=
  let ws := words name
  match rule with
  | verbatim => name
  | pascal => (ws.map capitalize).flatten
  | camel => (camelWords ws).flatten
  | snake => ['_'].intercalate (ws.map lowerChars)
  | screamingSnake => ['_'].intercalate (ws.map upperChars)
  | kebab => ['-'].intercalate (ws.map lowerChars)
  | flat => (ws.map lowerChars).flatten
  | upperFlat => (ws.map upperChars).flatten

/-- A name in a convention. -/
def apply (rule : NamingRule) (name : String) : String := .ofList (rule.applyChars name.toList)

end NamingRule

end EntityQuery.Text

import EntityQuery.Text.EditDistance

/-!
# Errors

Everything that can fail does so while a request is read or checked, or while a tree is built, joined,
compiled or rendered; evaluating a compiled predicate never fails. An error has a code for programs,
a message for people, and the circumstances that are known of it.
-/

namespace EntityQuery

/-- What went wrong, for programs. -/
inductive ErrorCode where
  /-- The entity has no property of that name. -/
  | propertyNotFound
  /-- The declared type is not the type of the property. -/
  | typeMismatch
  /-- The operation does not apply to the property. -/
  | unsupportedOperation
  /-- The wrong number of values, filters or keys. -/
  | invalidArity
  /-- A literal is not one of the declared type. -/
  | valueParseError
  /-- The request is malformed. -/
  | invalidRequest
  /-- The operation cannot handle a part of the tree. -/
  | unsupportedNodeKind
  /-- The tree is malformed. -/
  | invalidTree
  /-- The configuration is malformed or contradictory. -/
  | invalidConfiguration
  /-- The library is at fault. -/
  | internal
  deriving DecidableEq, Repr

namespace ErrorCode

/-- Thousands are the category: requests, trees, configuration, the library itself. -/
def number : ErrorCode → Nat
  | propertyNotFound => 1001
  | typeMismatch => 1002
  | unsupportedOperation => 1003
  | invalidArity => 1004
  | valueParseError => 1005
  | invalidRequest => 1006
  | unsupportedNodeKind => 2001
  | invalidTree => 2002
  | invalidConfiguration => 7001
  | internal => 9001

/-- The code as it is shown. -/
def toText (c : ErrorCode) : String := s!"S{c.number}"

/-- The name of a code. -/
def name : ErrorCode → String
  | propertyNotFound => "PropertyNotFound"
  | typeMismatch => "TypeMismatch"
  | unsupportedOperation => "UnsupportedOperation"
  | invalidArity => "InvalidArity"
  | valueParseError => "ValueParseError"
  | invalidRequest => "InvalidRequest"
  | unsupportedNodeKind => "UnsupportedNodeKind"
  | invalidTree => "InvalidTree"
  | invalidConfiguration => "InvalidConfiguration"
  | internal => "Internal"

/-- All codes. -/
def all : List ErrorCode :=
  [propertyNotFound, typeMismatch, unsupportedOperation, invalidArity, valueParseError,
    invalidRequest, unsupportedNodeKind, invalidTree, invalidConfiguration, internal]

/-- The code of a given name. -/
def ofName? (s : String) : Option ErrorCode := all.find? fun c => c.name == s

/-- What a code means, for people. -/
def description : ErrorCode → String
  | propertyNotFound => "Property not found"
  | typeMismatch => "Type mismatch"
  | unsupportedOperation => "Unsupported operation"
  | invalidArity => "Invalid arity"
  | valueParseError => "Value parse error"
  | invalidRequest => "Invalid request"
  | unsupportedNodeKind => "Unsupported node kind"
  | invalidTree => "Invalid predicate tree"
  | invalidConfiguration => "Invalid configuration"
  | internal => "Internal error"

/-- Where the code is documented. -/
def docs (c : ErrorCode) : String := "https://sift.rs/docs/errors/" ++ c.toText

/-- Whether the request is at fault. -/
def isClient (c : ErrorCode) : Bool := c.number < 2000

theorem mem_all (c : ErrorCode) : c ∈ all := by cases c <;> decide

end ErrorCode

/-- The circumstances of an error. -/
structure ErrorContext where
  operation : Option String := none
  entity : Option String := none
  property : Option String := none
  tree : Option String := none
  suggestions : List String := []
  help : Option String := none
  deriving DecidableEq

/-- A failure. -/
structure QueryError where
  code : ErrorCode
  message : String
  context : ErrorContext := {}
  /-- Whether the error passes on the failure of a reader or of the file system. -/
  hasSource : Bool := false
  deriving DecidableEq

/-- The outcome of an operation that may fail. -/
abbrev Result (α : Type) := Except QueryError α

namespace QueryError

/-! ### Circumstances -/

/-- Says during which operation the error happened. -/
def withContext (e : QueryError) (operation : String) : QueryError :=
  { e with context := { e.context with operation := some operation } }

/-- Says which entity the error is about. -/
def withEntity (e : QueryError) (entity : String) : QueryError :=
  { e with context := { e.context with entity := some entity } }

/-- Says which property the error is about. -/
def withProperty (e : QueryError) (property : String) : QueryError :=
  { e with context := { e.context with property := some property } }

/-- Says which tree the error is about. -/
def withTree (e : QueryError) (tree : String) : QueryError :=
  { e with context := { e.context with tree := some tree } }

/-- Adds a proposal after those that were made before. -/
def withSuggestion (e : QueryError) (suggestion : String) : QueryError :=
  { e with context := { e.context with suggestions := e.context.suggestions ++ [suggestion] } }

/-- Says what can be done about the error. -/
def withHelp (e : QueryError) (help : String) : QueryError :=
  { e with context := { e.context with help := some help } }

/-- Says that the error was caused by another one. -/
def withSource (e : QueryError) : QueryError := { e with hasSource := true }

/-! ### Failures -/

/-- The entity has no such property; the closest of its properties are proposed. -/
def propertyNotFound (entity property : String) (known : List String) : QueryError :=
  let e : QueryError := (QueryError.mk .propertyNotFound s!"Property '{property}' not found on {entity}" {} false
    |>.withEntity entity).withProperty property
  let e := (Text.closestNames property known).foldl
    (fun e candidate => e.withSuggestion s!"Did you mean '{candidate}'?") e
  if known.isEmpty then e else e.withHelp ("Known properties: " ++ ", ".intercalate known)

/-- A filter declares another type than its property has, which is proposed instead. -/
def typeMismatch (property declared actual : String) : QueryError :=
  { code := .typeMismatch
    message := s!"Declared type {declared} is incompatible with property '{property}' of type {actual}"
    : QueryError }.withProperty property |>.withSuggestion s!"Declare the filter as {actual}"

/-- The operation does not apply to the property. -/
def unsupportedOperation (property message : String) : QueryError :=
  { code := .unsupportedOperation, message : QueryError }.withProperty property

/-- There are more or fewer values, filters or keys than expected. -/
def invalidArity (what expected : String) (actual : Nat) : QueryError :=
  { code := .invalidArity, message := s!"{what} expects {expected} value(s), got {actual}" }

/-- A literal does not belong to the type that is declared. -/
def valueParse (value declared : String) : QueryError :=
  { code := .valueParseError, message := s!"Cannot parse '{value}' as {declared}" }

/-- The request is malformed. -/
def invalidRequest (message : String) : QueryError :=
  { code := .invalidRequest, message := s!"Invalid request: {message}" }

/-- The operation has no way to handle a part of a tree. -/
def unsupportedNode (construct operation : String) : QueryError :=
  { code := .unsupportedNodeKind
    message := s!"{operation} cannot handle node {construct}" : QueryError }.withContext operation

/-- The tree is malformed, most often since it was put together from parts about different parameters. -/
def invalidTree (message : String) : QueryError :=
  { code := .invalidTree, message := s!"Invalid predicate tree: {message}" : QueryError }.withHelp
    "Trees combined from separate builders must be rebound to one parameter"

/-- The configuration is malformed or contradictory. -/
def configuration (message : String) : QueryError :=
  { code := .invalidConfiguration, message := s!"Invalid configuration: {message}" }

/-- The library is at fault. -/
def internal (message : String) : QueryError :=
  { code := .internal, message := s!"Internal error: {message}" : QueryError }.withHelp
    "This is likely a bug in Sift - please report it at https://github.com/sift-rs/sift/issues"

/-- The words of a reader about a text that it cannot read, left out. -/
def elide (_text : String) : String := "..."

/-! ### Texts -/

/-- Code and message. -/
def toText (e : QueryError) : String := s!"[{e.code.toText}] {e.message}"

/-- How many bytes of a tree are shown. -/
def shownTreeBytes : Nat := 200

/-- The longest beginning of a text that fits into a number of bytes. -/
def takeBytes (room : Nat) : List Char → List Char
  | [] => []
  | c :: rest => if c.utf8Size ≤ room then c :: takeBytes (room - c.utf8Size) rest else []

/-- A tree as it is shown, cut if it is long. -/
def shortTree (tree : String) : String :=
  if tree.utf8ByteSize ≤ shownTreeBytes then tree
  else .ofList (takeBytes shownTreeBytes tree.toList) ++ "..."

/-- A line that is there only if the circumstance is known. -/
def contextLine (label : String) : Option String → String
  | none => ""
  | some text => s!"  → {label}: {text}\n"

/-- The error with all that is known of it. -/
def fullText (e : QueryError) : String :=
  let c := e.context
  let suggestions := (c.suggestions.zipIdx 1).map fun (s, i) => s!"  {i}. {s}\n"
  s!"Error [{e.code.toText}]: {e.message}\n" ++
    contextLine "While" c.operation ++ contextLine "Entity" c.entity ++
    contextLine "Property" c.property ++ contextLine "Tree" (c.tree.map shortTree) ++
    (if c.suggestions.isEmpty then "" else "\nSuggestions:\n" ++ String.join suggestions) ++
    (match c.help with
      | none => ""
      | some help => s!"\nHelp: {help}\n") ++
    s!"\nMore info: {e.code.docs}\n"

end QueryError

end EntityQuery

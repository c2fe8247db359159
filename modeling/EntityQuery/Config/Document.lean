import EntityQuery.Config.Environment
import EntityQuery.Config.Wire
import EntityQuery.Toml.Reader

/-!
# Configuration files

A configuration is written in TOML. References to variables of the environment are replaced before the
text is read, so that they may stand anywhere in it.
-/

namespace EntityQuery.Config

/-- The error that a text is no configuration, for the reason that the reader of documents gives. -/
def malformed (reason : String) : QueryError :=
  (QueryError.configuration s!"Invalid configuration: {reason}").withSource

/-- The error that a file cannot be read. -/
def unreadable (path : String) : QueryError :=
  (QueryError.configuration s!"Cannot read '{path}'").withSource

/-- Reads a configuration and checks it. The reader of documents explains in its own words why a text, after
references are replaced, is none. -/
def parse (explain : String → String) (env : Environment) (text : String) : Result Config :=
  let expanded := env.expand text.toList
  match Toml.read? expanded >>= ofTree? Toml.style with
  | none => .error (malformed (explain (.ofList expanded)))
  | some c => c.validate.map fun _ => c

/-- Reads a configuration from the file at a path, given what the file holds, if it can be read. -/
def parseFile (explain : String → String) (env : Environment) (path : String) (content : Option String) :
    Result Config :=
  match content with
  | none => .error (unreadable path)
  | some text => parse explain env text

/-- Reads a configuration, without an explanation if the text is none. -/
def ofText (env : Environment) (text : String) : Result Config := parse QueryError.elide env text

/-- Reads a configuration from a file, without an explanation if its text is none. -/
def ofFile (env : Environment) (path : String) (content : Option String) : Result Config :=
  parseFile QueryError.elide env path content

end EntityQuery.Config

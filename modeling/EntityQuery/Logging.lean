import EntityQuery.Environment
import EntityQuery.Text.Lowercase

/-!
# Logging

How much is logged and in which format is set in the environment. Values are compared without regard to
case, and one that means nothing counts as not set.
-/

namespace EntityQuery

/-- How much is logged, from the most to the least. -/
inductive LogLevel where
  | trace
  | debug
  | info
  | warn
  | error
  deriving DecidableEq, Repr

/-- The name of a level. -/
def LogLevel.name : LogLevel → String
  | trace => "trace"
  | debug => "debug"
  | info => "info"
  | warn => "warn"
  | error => "error"

/-- The level of a given name. -/
def LogLevel.ofName? (name : String) : Option LogLevel :=
  [trace, debug, info, warn, error].find? fun l => l.name == name

/-- How log lines are written. -/
inductive LogFormat where
  | json
  | pretty
  | compact
  deriving DecidableEq, Repr

/-- The name of a format. -/
def LogFormat.name : LogFormat → String
  | json => "json"
  | pretty => "pretty"
  | compact => "compact"

/-- The format of a given name. -/
def LogFormat.ofName? (name : String) : Option LogFormat :=
  [json, pretty, compact].find? fun f => f.name == name

namespace Environment

/-- A variable in lower case. -/
def lowered? (env : Environment) (name : String) : Option String := (env.get? name).map Text.lower

/-- Whether debugging is asked for. -/
def isDebugEnabled (env : Environment) : Bool :=
  (env.lowered? "SIFT_DEBUG").any fun v => v == "true" || v == "1" || v == "yes"

/-- The level unless one is set. -/
def fallbackLogLevel (env : Environment) : LogLevel := if env.isDebugEnabled then .debug else .warn

/-- The variable that sets the level. -/
def logLevelVariable : String := "SIFT_LOG_LEVEL"

/-- How much is logged. -/
def logLevel (env : Environment) : LogLevel :=
  (env.lowered? logLevelVariable >>= LogLevel.ofName?).getD env.fallbackLogLevel

/-- How log lines are written, as JSON unless set otherwise. -/
def logFormat (env : Environment) : LogFormat :=
  (env.lowered? "SIFT_LOG_FORMAT" >>= LogFormat.ofName?).getD .json

/-- The environment with the level set. -/
def withLogLevel (env : Environment) (level : String) : Environment := env.set logLevelVariable level

end Environment

end EntityQuery

import EntityQuery.Predicate.Tree
import EntityQuery.Sql.Syntax

/-!
# Rendering conditions

A tree is rendered to a SQL condition that selects the rows the tree holds of. SQL is three-valued where
trees are not: a comparison with null is unknown, so a negation asks whether its operand is false or
unknown, and inequality is the negation of equality. Opaque tests and sets of values have no rendering.
-/

namespace EntityQuery.Sql

variable {S : Schema}

/-! ### Faults -/

namespace RenderFault

/-- What an unsupported part was met in. -/
def operation : String := "SQL rendering"

/-- SQL has no way to say a part of the tree. -/
def unsupported (construct : String) : QueryError := .unsupportedNode construct operation

/-- A constant other than a truth value stands where a condition has to. -/
def constantAsCondition (v : Value) : QueryError :=
  .invalidTree s!"constant {v.toText} used as a condition"

/-- A row stands where a value or a condition has to. -/
def entityAs (what : String) (e : Expr S) : QueryError :=
  .invalidTree s!"entity expression {e.toText} used as a {what}"

/-- What a member is read from is no row. -/
def notAnEntity (e : Expr S) : QueryError := .invalidTree s!"{e.toText} is not an entity expression"

/-- A method has more or fewer arguments than it takes. -/
def argumentCount (m : Method) (n : Nat) : QueryError :=
  .invalidTree s!"{m.name} expects {m.arity} argument(s), got {n}"

/-- A test is known by its label alone. -/
def opaqueTest (t : OpaqueTest S) : QueryError :=
  (unsupported s!"opaque test '{t.label}'").withHelp "Opaque tests can only be evaluated in memory"

/-- A list stands where one value has to. -/
def listLiteral (e : Expr S) : QueryError := unsupported s!"list literal {e.toText}"

/-- A condition stands where a value has to. -/
def inValuePosition (e : Expr S) : QueryError := unsupported s!"{e.kind} in a value position"

/-- A collection stands where one value has to. -/
def collection (e : Expr S) : QueryError := unsupported s!"collection property {e.toText}"

/-- The members of a collection are not columns of the row. -/
def collectionTarget (m : Method) (e : Expr S) : QueryError :=
  (unsupported s!"{m.name}({e.toText})").withHelp
    "Set operations on collection properties can only be evaluated in memory"

/-- SQL has no test for the equality of two sets. -/
def setTest (m : Method) (e : Expr S) : QueryError := unsupported s!"{m.name}({e.toText})"

/-- What a method is called on is no property. -/
def methodOn (m : Method) (e : Expr S) : QueryError := unsupported s!"{m.name} on {e.kind}"

/-- The text that is searched for is not a literal. -/
def computedText (m : Method) (e : Expr S) : QueryError :=
  unsupported s!"{m.name} with a non-literal argument {e.toText}"

/-- The values that are searched for are not literals. -/
def computedArgument (m : Method) : QueryError := unsupported s!"{m.name} with a computed argument"

end RenderFault

/-! ### Patterns -/

/-- Whether a character means something in a pattern. -/
def isLikeSpecial (c : Char) : Bool := c == '%' || c == '_' || c == likeEscape

/-- The pattern that a text alone matches. -/
def escapeLike (s : List Char) : List Char :=
  s.flatMap fun c => if isLikeSpecial c then [likeEscape, c] else [c]

/-- The pattern of the texts that have `needle` at the place a method of texts asks for. -/
def likePattern (leading trailing : Bool) (mode : CaseMode) (needle : String) : String :=
  let any := fun (b : Bool) => if b then ['%'] else []
  .ofList (any leading ++ escapeLike (mode.fold needle.toList) ++ any trailing)

/-! ### Columns -/

/-- The names on the way from the parameter to an entity. -/
def path (bound : Parameter S) : Expr S → Result (List String)
  | .parameter p => if p = bound then .ok [] else .error (TreeFault.unboundParameter p)
  | .project target p => do .ok ((← path bound target) ++ [p.label])
  | e => .error (RenderFault.notAnEntity e)

/-- The column of a property of an entity. -/
def column (bound : Parameter S) (target : Expr S) (m : Member S) : Result Column := do
  .ok ⟨← path bound target, m.name⟩

/-- The column that an expression is. -/
def scalarColumn (bound : Parameter S) (e : Expr S) : Result Column :=
  match e with
  | .member target m =>
    if m.type.isCollection then .error (RenderFault.collection e) else column bound target m
  | .parameter _ | .project .. => .error (RenderFault.entityAs "value" e)
  | _ => .error (RenderFault.inValuePosition e)

/-- The scalar that an expression is: a column or a constant. -/
def scalar (bound : Parameter S) (e : Expr S) : Result Scalar :=
  match e with
  | .constant (.list _) => .error (RenderFault.listLiteral e)
  | .constant v => .ok (.bound v)
  | _ => .column <$> scalarColumn bound e

/-- The text of the column that an expression is. -/
def textColumn (bound : Parameter S) (mode : CaseMode) (e : Expr S) : Result Scalar := do
  let c ← scalarColumn bound e
  match mode with
  | .ordinal => .ok (.column c)
  | .ignoreCase => .ok (.lower c)

/-- The family of the single property that a method is called on. -/
def scalarFamily (m : Method) (e : Expr S) : Result Family :=
  match e with
  | .member _ p =>
    if p.type.isCollection then .error (RenderFault.collectionTarget m e) else .ok p.type.family
  | _ => .error (RenderFault.methodOn m e)

/-! ### Conditions -/

/-- The literal text that a method is called with. -/
def textLiteral (m : Method) (e : Expr S) : Result String :=
  match e with
  | .constant (.string s) => .ok s
  | _ => .error (RenderFault.computedText m e)

/-- A method of texts that is a pattern. -/
def renderLike (bound : Parameter S) (m : Method) (mode : CaseMode) (leading trailing : Bool)
    (target arg : Expr S) : Result Condition := do
  let needle ← textLiteral m arg
  let s ← textColumn bound mode target
  .ok (.like s (likePattern leading trailing mode needle))

/-- A method with its arguments. -/
def renderCall (bound : Parameter S) (m : Method) (target : Expr S) (args : List (Expr S)) :
    Result Condition :=
  match m, args with
  | .contains mode, [arg] => renderLike bound m mode true true target arg
  | .startsWith mode, [arg] => renderLike bound m mode false true target arg
  | .endsWith mode, [arg] => renderLike bound m mode true false target arg
  | .textEquals mode, [arg] => do
    let s ← textLiteral m arg
    let c ← textColumn bound mode target
    .ok (.compare .eq c (.bound (.string (.ofList (mode.fold s.toList)))))
  | .isDefault, [] => do
    let f ← scalarFamily m target
    .ok (.nullOr (← scalarColumn bound target) f.defaultValue)
  | .overlaps, [arg] => do
    let _ ← scalarFamily m target
    match arg with
    | .constant v =>
      if v.members.isEmpty then .ok (.literal false)
      else .ok (.isIn (← scalar bound target) v.members)
    | _ => .error (RenderFault.computedArgument m)
  | .setEquals, [_] => .error (RenderFault.setTest m target)
  | _, _ => .error (RenderFault.argumentCount m args.length)

/-- A comparison. Inequality holds where equality is not true. -/
def renderCompare (bound : Parameter S) (op : CompareOp) (left right : Expr S) : Result Condition := do
  let l ← scalar bound left
  let r ← scalar bound right
  match op with
  | .eq => .ok (.compare .eq l r)
  | .ne => .ok (.notTrue (.compare .eq l r))
  | .lt => .ok (.compare .lt l r)
  | .lte => .ok (.compare .lte l r)
  | .gt => .ok (.compare .gt l r)
  | .gte => .ok (.compare .gte l r)

/-- The SQL condition of a condition. -/
def renderCondition (bound : Parameter S) : Expr S → Result Condition
  | .constant (.bool b) => .ok (.literal b)
  | .constant v => .error (RenderFault.constantAsCondition v)
  | .member target m =>
    if m.type.isCondition then do
      .ok (.compare .eq (.column (← column bound target m)) (.bound (.bool true)))
    else .error (TreeFault.memberAsCondition m)
  | .parameter p => .error (RenderFault.entityAs "condition" (.parameter p))
  | .project target p => .error (RenderFault.entityAs "condition" (.project target p))
  | .compare op l r => renderCompare bound op l r
  | .call m target args => renderCall bound m target args
  | .and l r => do
    let l ← renderCondition bound l
    let r ← renderCondition bound r
    .ok (.and l r)
  | .or l r => do
    let l ← renderCondition bound l
    let r ← renderCondition bound r
    .ok (.or l r)
  | .not inner => do .ok (.notTrue (← renderCondition bound inner))
  | .test t => .error (RenderFault.opaqueTest t)

/-- The SQL condition that selects the rows a tree holds of. -/
def conditionOf {t : S.Entity} (tree : Tree S t) : Result Condition :=
  (renderCondition tree.parameter tree.body).mapError tree.blame

/-- The text of that condition in a dialect. -/
def render {t : S.Entity} (d : Dialect) (tree : Tree S t) : Result Fragment :=
  (conditionOf tree).map fun c => .ofTokens d 0 c.tokens

end EntityQuery.Sql

import EntityQuery.Expr.Basic
import EntityQuery.Text.Infix
import EntityQuery.Text.Lowercase

/-!
# Compilation

An expression is checked and turned into a function in one walk. Every expression must be of the sort
that its place asks for, every property must belong to the entity it is read from, and every parameter
must be the bound one. What passes evaluates without failing. Operands are checked from left to right,
and the first fault is the one reported.
-/

namespace EntityQuery

/-! ### The meaning of operators and methods -/

/-- Whether two values compare as the operator says. Only inequality holds of incomparable values. -/
def CompareOp.holds (op : CompareOp) (l r : Value) : Bool :=
  match op with
  | eq => l.looseEq r
  | ne => !l.looseEq r
  | lt => l.compare? r == some .lt
  | lte => l.compare? r == some .lt || l.compare? r == some .eq
  | gt => l.compare? r == some .gt
  | gte => l.compare? r == some .gt || l.compare? r == some .eq

/-- A text as a method of texts sees it. -/
def CaseMode.fold (mode : CaseMode) (s : List Char) : List Char :=
  match mode with
  | ordinal => s
  | ignoreCase => Text.lowerChars s

/-- A test of two texts, which fails unless both values are texts. -/
def Method.textTest (mode : CaseMode) (test : List Char → List Char → Bool) (target arg : Value) : Bool :=
  match target.string?, arg.string? with
  | some s, some t => test (mode.fold s.toList) (mode.fold t.toList)
  | _, _ => false

/-- What a method says of a value and its argument. -/
def Method.holds (m : Method) (target arg : Value) : Bool :=
  match m with
  | contains mode => textTest mode (fun s t => Text.hasInfix t s) target arg
  | startsWith mode => textTest mode (fun s t => t.isPrefixOf s) target arg
  | endsWith mode => textTest mode (fun s t => t.isSuffixOf s) target arg
  | textEquals mode => textTest mode (fun s t => s == t) target arg
  | isDefault => target.isDefault
  | overlaps => target.overlaps arg
  | setEquals => target.setEquals arg

variable {S : Schema}

/-! ### Faults -/

namespace TreeFault

/-- A parameter that is not the bound one. -/
def unboundParameter (p : Parameter S) : QueryError :=
  .invalidTree s!"parameter '{p.name}' is not bound by this tree"

/-- A projection from the wrong type of entities. -/
def wrongSource (p : Projection S) (e : S.Entity) : QueryError :=
  .invalidTree s!"projection '{p.label}' expects {S.nameOf p.source}, applied to {S.nameOf e}"

/-- A property of the wrong type of entities. -/
def wrongOwner (m : Member S) (e : S.Entity) : QueryError :=
  .invalidTree s!"property '{m.name}' belongs to {S.nameOf m.owner}, read from {S.nameOf e}"

/-- Something else in the place of an entity. -/
def notAnEntity (e : Expr S) : QueryError :=
  .invalidTree s!"expected an entity expression, found {e.kind} '{e.toText}'"

/-- An entity in the place of a value or a condition. -/
def entityAs (what : String) (e : Expr S) : QueryError :=
  .invalidTree s!"entity expression '{e.toText}' used where a {what} is expected"

/-- A constant other than a truth value in the place of a condition. -/
def constantAsCondition (v : Value) : QueryError :=
  .invalidTree s!"constant {v.toText} used where a condition is expected"

/-- A property other than a single truth value in the place of a condition. -/
def memberAsCondition (m : Member S) : QueryError :=
  .invalidTree s!"property '{m.name}' of type {m.type.toText} used as a condition"

/-- The wrong number of arguments. -/
def argumentCount (m : Method) (n : Nat) : QueryError :=
  .invalidTree s!"{m.name} takes {m.arity} argument(s), got {n}"

/-- A test of a parameter that is not the bound one. -/
def unboundTest (t : OpaqueTest S) : QueryError :=
  .invalidTree s!"opaque test '{t.label}' refers to unbound parameter '{t.subject.name}'"

end TreeFault

/-! ### Code -/

/-- What an entity expression comes to: a type of entities and how to get there. -/
structure Subject (S : Schema) where
  entity : S.Entity
  locate : S.AnyRow → Option S.AnyRow

/-- A compiled value. -/
abbrev ValueCode (S : Schema) := S.AnyRow → Value

/-- A compiled condition. -/
abbrev ConditionCode (S : Schema) := S.AnyRow → Bool

namespace ConditionCode

/-- A condition in the place of a value. -/
def asValue (f : ConditionCode S) : ValueCode S := fun x => .bool (f x)

/-- A comparison of two values. The left operand fails first. -/
def ofCompare (op : CompareOp) (l r : Result (ValueCode S)) : Result (ConditionCode S) := do
  let l ← l
  let r ← r
  .ok fun x => op.holds (l x) (r x)

/-- The call of a method. A method without arguments sees null in the place of its argument. -/
def ofCall (m : Method) (count : Nat) (target : Result (ValueCode S))
    (args : Result (List (ValueCode S))) : Result (ConditionCode S) :=
  if count ≠ m.arity then .error (TreeFault.argumentCount m count)
  else do
    let t ← target
    let args ← args
    .ok fun x => m.holds (t x) ((args.head?.map fun a => a x).getD .null)

/-- A conjunction. The right condition is not asked where the left one is false. -/
def ofAnd (l r : Result (ConditionCode S)) : Result (ConditionCode S) := do
  let l ← l
  let r ← r
  .ok fun x => l x && r x

/-- A disjunction. The right condition is not asked where the left one is true. -/
def ofOr (l r : Result (ConditionCode S)) : Result (ConditionCode S) := do
  let l ← l
  let r ← r
  .ok fun x => l x || r x

/-- A negation. -/
def ofNot (f : Result (ConditionCode S)) : Result (ConditionCode S) := do
  let f ← f
  .ok fun x => !f x

/-- A test that is known by its label alone. Its subject has to be the parameter that is bound. -/
def ofTest (bound : Parameter S) (t : OpaqueTest S) : Result (ConditionCode S) :=
  if t.subject = bound then .ok t.holds else .error (TreeFault.unboundTest t)

/-- A property that is a condition holds where it is true. -/
def ofMember (m : Member S) (f : Result (ValueCode S)) : Result (ConditionCode S) :=
  if m.type.isCondition then do
    let f ← f
    .ok fun x => f x == .bool true
  else .error (TreeFault.memberAsCondition m)

end ConditionCode

/-! ### The walk -/

namespace Expr

/-- Compiles an entity expression. -/
def compileSubject (bound : Parameter S) : Expr S → Result (Subject S)
  | .parameter p => if p = bound then .ok ⟨p.entity, some⟩ else .error (TreeFault.unboundParameter p)
  | .project target p => do
    let s ← compileSubject bound target
    if s.entity = p.source then .ok ⟨p.target, fun x => s.locate x >>= p.apply?⟩
    else .error (TreeFault.wrongSource p s.entity)
  | e => .error (TreeFault.notAnEntity e)

/-- Compiles the property of an entity expression, which is null where the entity cannot be located. -/
def compileMember (bound : Parameter S) (target : Expr S) (m : Member S) : Result (ValueCode S) := do
  let s ← compileSubject bound target
  if s.entity = m.owner then .ok fun x => ((s.locate x).map m.readAny).getD .null
  else .error (TreeFault.wrongOwner m s.entity)

open ConditionCode

mutual

/-- Compiles a value. -/
def compileValue (bound : Parameter S) : Expr S → Result (ValueCode S)
  | .constant v => .ok fun _ => v
  | .member target m => compileMember bound target m
  | .parameter p => .error (TreeFault.entityAs "value" (.parameter p))
  | .project target p => .error (TreeFault.entityAs "value" (.project target p))
  | .compare op l r => asValue <$> ofCompare op (compileValue bound l) (compileValue bound r)
  | .call m target args =>
    asValue <$> ofCall m args.length (compileValue bound target) (compileValues bound args)
  | .and l r => asValue <$> ofAnd (compileCondition bound l) (compileCondition bound r)
  | .or l r => asValue <$> ofOr (compileCondition bound l) (compileCondition bound r)
  | .not inner => asValue <$> ofNot (compileCondition bound inner)
  | .test t => asValue <$> ofTest bound t

/-- Compiles the arguments of a call. -/
def compileValues (bound : Parameter S) : List (Expr S) → Result (List (ValueCode S))
  | [] => .ok []
  | e :: rest => do
    let f ← compileValue bound e
    let fs ← compileValues bound rest
    .ok (f :: fs)

/-- Compiles a condition. -/
def compileCondition (bound : Parameter S) : Expr S → Result (ConditionCode S)
  | .constant (.bool b) => .ok fun _ => b
  | .constant v => .error (TreeFault.constantAsCondition v)
  | .member target m => ofMember m (compileMember bound target m)
  | .parameter p => .error (TreeFault.entityAs "condition" (.parameter p))
  | .project target p => .error (TreeFault.entityAs "condition" (.project target p))
  | .compare op l r => ofCompare op (compileValue bound l) (compileValue bound r)
  | .call m target args =>
    ofCall m args.length (compileValue bound target) (compileValues bound args)
  | .and l r => ofAnd (compileCondition bound l) (compileCondition bound r)
  | .or l r => ofOr (compileCondition bound l) (compileCondition bound r)
  | .not inner => ofNot (compileCondition bound inner)
  | .test t => ofTest bound t

end

/-- Whether the outermost node of an expression makes it a condition. -/
def isConditionNode : Expr S → Bool
  | .compare .. | .call .. | .and .. | .or .. | .not _ | .test _ => true
  | _ => false

/-- A condition node compiles in the place of a value to what it compiles to as a condition. -/
theorem compileValue_eq {bound : Parameter S} {e : Expr S} (h : e.isConditionNode = true) :
    compileValue bound e = asValue <$> compileCondition bound e := by
  cases e with
  | parameter | constant | member | project => cases h
  | compare | call | and | or | not | test => rw [compileValue, compileCondition]

end Expr

end EntityQuery

import EntityQuery.Config.Basic
import EntityQuery.Predicate.Specification
import EntityQuery.Request.Filter
import EntityQuery.Value.Literal

/-!
# The selection of a request

A filter is checked against a type of entities and becomes a specification. The checks come in a fixed
order, so that a filter with several faults is always blamed for the same one: the property, the declared
type, the operator, the number of literals, and then each literal. The filters of a request select the
rows that satisfy all of them.
-/

namespace EntityQuery

variable {S : Schema}

/-! ### Conditions -/

/-- The text of a literal that is meant as one. -/
def Value.literalText : Value → String
  | .string s => s
  | v => v.toText

namespace FilterOperator

/-- The condition that an operator asks of an operand. -/
def condition (op : FilterOperator) (o : Operand S) (vs : List Value) : Expr S :=
  let first := vs.headD .null
  match op with
  | equals => o.eq first
  | notEqual => o.ne first
  | contains => o.contains first.literalText
  | startsWith => o.startsWith first.literalText
  | endsWith => o.endsWith first.literalText
  | notEmpty => o.notEmpty
  | lessThan => o.compare .lt first
  | greaterThan => o.compare .gt first
  | between => o.between first (vs.tail.headD .null)
  | includeAny => o.overlaps vs
  | includeEquals => o.setEquals vs
  | includeNone => (o.overlaps vs).negate

/-! ### Checks -/

/-- Checks that the operator makes sense of a property. -/
def checkProperty (op : FilterOperator) (name : String) (t : PropertyType) : Result Unit :=
  if op.appliesTo t then .ok ()
  else .error (.unsupportedOperation name
    s!"{op.name} is not supported on property '{name}' of type {t.toText}")

/-- Checks the number of literals. -/
def checkArity (op : FilterOperator) (name : String) (count : Nat) : Result Unit :=
  match op.arity with
  | .exactly n =>
    if count = n then .ok ()
    else .error ((QueryError.invalidArity op.name (toString n) count).withProperty name)
  | _ => .ok ()

end FilterOperator

namespace FilterSpec

/-- Checks that the literals are of the declared family. -/
def checkType (declared : Family) (name : String) (t : PropertyType) : Result Unit :=
  if declared = t.family then .ok () else .error (.typeMismatch name declared.name t.family.name)

/-- Reads literals one after the other. -/
def readLiterals (f : Family) (name : String) : List String → Result (List Value)
  | [] => .ok []
  | raw :: rest => do
    let v ← (f.parse raw).mapError (·.withProperty name)
    let vs ← readLiterals f name rest
    .ok (v :: vs)

/-- The values that the operator looks at. -/
def operands (spec : FilterSpec) (f : Family) (name : String) : Result (List Value) :=
  match spec.operator.arity with
  | .ignored => .ok []
  | _ => readLiterals f name spec.literals

/-- Checks a filter, and gives the property and the values it is about. -/
def check (spec : FilterSpec) (t : S.Entity) : Result (Property (S.Row t) × List Value) := do
  let p ← (S.metadata t).resolve spec.propertyName
  checkType spec.declaredType p.name p.type
  spec.operator.checkProperty p.name p.type
  spec.operator.checkArity p.name spec.literals.length
  let vs ← spec.operands p.type.family p.name
  .ok (p, vs)

/-! ### Specifications -/

/-- An error with the filter it is about. -/
def blame (spec : FilterSpec) (t : S.Entity) (e : QueryError) : QueryError :=
  (e.withEntity (S.nameOf t)).withContext
    s!"Translating {spec.operator.name} filter on '{spec.propertyName}'"

/-- A new specification that a row satisfies if the filter holds of it. -/
def toSpecification (spec : FilterSpec) (mode : CaseMode) (t : S.Entity) :
    Fresh (Result (Specification S t)) := do
  match spec.check t with
  | .error e => return .error (spec.blame t e)
  | .ok (p, vs) =>
    let built ← Specification.build t fun x => do
      let o ← x.property p.name
      .ok (spec.operator.condition (o.withMode mode) vs)
    return built.mapError (spec.blame t)

/-- The specifications of filters, one after the other. -/
def toSpecifications (mode : CaseMode) (t : S.Entity) :
    List FilterSpec → Fresh (Result (List (Specification S t)))
  | [] => return .ok []
  | spec :: rest => do
    match ← spec.toSpecification mode t with
    | .error e => return .error e
    | .ok a => return (← toSpecifications mode t rest).map (a :: ·)

end FilterSpec

/-- A new specification that a row satisfies if all filters hold of it. -/
def FilterConfig.select (c : FilterConfig) (t : S.Entity) (specs : List FilterSpec) :
    Fresh (Result (Specification S t)) := do
  if c.maxFilters < specs.length then
    return .error (QueryError.withEntity
      (.invalidArity "Filter list" s!"at most {c.maxFilters}" specs.length) (S.nameOf t))
  else
    match ← FilterSpec.toSpecifications c.stringComparison t specs with
    | .error e => return .error e
    | .ok as => return .ok (← Specification.all t as)

end EntityQuery

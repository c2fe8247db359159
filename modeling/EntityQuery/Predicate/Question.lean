import EntityQuery.Predicate.Builder

/-!
# Questions

What can be asked of an operand, as data.
-/

namespace EntityQuery

/-- A question to ask of a property. -/
inductive Question where
  /-- The property is a condition by itself. -/
  | bare
  | eq (v : Value)
  | ne (v : Value)
  | compare (op : CompareOp) (v : Value)
  | between (low high : Value)
  | contains (s : String)
  | startsWith (s : String)
  | endsWith (s : String)
  | isDefault
  | notEmpty
  | isTrue
  | overlaps (vs : List Value)
  | setEquals (vs : List Value)

/-- The condition that an operand answers a question with yes. -/
def Operand.ask {S : Schema} (o : Operand S) : Question → Expr S
  | .bare => o.expr
  | .eq v => o.eq v
  | .ne v => o.ne v
  | .compare op v => o.compare op v
  | .between low high => o.between low high
  | .contains s => o.contains s
  | .startsWith s => o.startsWith s
  | .endsWith s => o.endsWith s
  | .isDefault => o.isDefault
  | .notEmpty => o.notEmpty
  | .isTrue => o.isTrue
  | .overlaps vs => o.overlaps vs
  | .setEquals vs => o.setEquals vs

end EntityQuery

import EntityQuery.Proofs.Expr.Places

/-!
# Nodes and operands

What holds of every kind of node alike need not be said once a kind: an expression is its outermost node, which
has an operator, a property or a constant in it, together with a list of operands (`Expr.ext_node`). Where the
kinds do not matter, induction is over the operands (`Expr.operands_induct`).
-/

namespace EntityQuery

variable {S : Schema}

namespace Expr

/-- A node of an expression without its operands. -/
inductive Node (S : Schema) where
  | parameter (p : Parameter S)
  | constant (v : Value)
  | member (m : Member S)
  | project (p : Projection S)
  | compare (op : CompareOp)
  | call (m : Method)
  | and
  | or
  | not
  | test (t : OpaqueTest S)

/-- The parameter that a node mentions by itself. -/
def Node.subject? : Node S → Option (Parameter S)
  | .parameter p => some p
  | .test t => some t.subject
  | _ => none

/-- The outermost node. -/
def node : Expr S → Node S
  | .parameter p => .parameter p
  | .constant v => .constant v
  | .member _ m => .member m
  | .project _ p => .project p
  | .compare op _ _ => .compare op
  | .call m _ _ => .call m
  | .and _ _ => .and
  | .or _ _ => .or
  | .not _ => .not
  | .test t => .test t

/-- What the outermost node is applied to. The target of a call comes before its arguments. -/
def operands : Expr S → List (Expr S)
  | .parameter _ | .constant _ | .test _ => []
  | .member target _ | .project target _ => [target]
  | .compare _ l r | .and l r | .or l r => [l, r]
  | .call _ target args => target :: args
  | .not inner => [inner]

/-- The part of an expression at which a path through operands ends, if it leads anywhere. -/
def part? : Expr S → List Nat → Option (Expr S)
  | e, [] => some e
  | e, i :: path => e.operands[i]?.bind fun d => d.part? path

/-- An expression is its outermost node with its operands. -/
theorem ext_node {e e' : Expr S} (hnode : e.node = e'.node) (hoperands : e.operands = e'.operands) : e = e' := by
  cases e <;> cases e' <;> simp_all [node, operands]

/-- Induction in which every operand satisfies the hypothesis, whatever the outermost node is. -/
theorem operands_induct {motive : Expr S → Prop} (step : ∀ e, (∀ d ∈ e.operands, motive d) → motive e)
    (e : Expr S) : motive e := by
  induction e using Expr.induct with
  | parameter | constant | test => exact step _ nofun
  | member target m ih | project target p ih | not e ih => exact step _ (List.forall_mem_singleton.mpr ih)
  | compare op l r ihl ihr | and l r ihl ihr | or l r ihl ihr =>
    exact step _ (List.forall_mem_cons.mpr ⟨ihl, List.forall_mem_singleton.mpr ihr⟩)
  | call m target args iht iha => exact step _ (List.forall_mem_cons.mpr ⟨iht, iha⟩)

end Expr

end EntityQuery

import EntityQuery.Proofs.Expr.Renaming
import EntityQuery.Value.Literal
import Mathlib.Data.List.Forall2

/-!
# Expressions that differ in their literals

Two expressions are alike if they are built in the same way from constants of the same kinds
(`Expr.Alike`). A constant that is a condition by itself is part of how an expression is built, and so is the
length of a list; the text of a string, the digits of a number and the members of a list are not. The
expressions may be about different parameters, as those of two trees always are.

Literals of one family are read as values of one kind (`Value.alike_of_read`), and expressions that are alike
stay so when each is renamed to another parameter (`Expr.Alike.rename`).
-/

namespace EntityQuery

/-- Two values are of the same kind, and of the same length if they are lists. -/
inductive Value.Alike : Value → Value → Prop where
  | null : Alike .null .null
  | bool (b b' : Bool) : Alike (.bool b) (.bool b')
  | int (i i' : Int64) : Alike (.int i) (.int i')
  | decimal (d d' : Decimal) : Alike (.decimal d) (.decimal d')
  | string (s s' : String) : Alike (.string s) (.string s')
  | dateTime (t t' : Timestamp) : Alike (.dateTime t) (.dateTime t')
  | uuid (u u' : Uuid) : Alike (.uuid u) (.uuid u')
  | list {items items' : List Value} (h : items.length = items'.length) : Alike (.list items) (.list items')

namespace Value

theorem Alike.length_members {v v' : Value} (h : v.Alike v') : v.members.length = v'.members.length := by
  cases h with
  | null | bool | int | decimal | string | dateTime | uuid => rfl
  | list h => exact h

/-- Two literals of one family are values of one kind. -/
theorem alike_of_read {f : Family} {raw raw' : String} {v v' : Value} (h : f.read? raw = some v)
    (h' : f.read? raw' = some v') : v.Alike v' := by
  cases f with
  | string =>
    cases h
    cases h'
    exact .string raw raw'
  | integer =>
    obtain ⟨i, -, rfl⟩ := Option.map_eq_some_iff.mp h
    obtain ⟨i', -, rfl⟩ := Option.map_eq_some_iff.mp h'
    exact .int i i'
  | decimal =>
    obtain ⟨d, -, rfl⟩ := Option.map_eq_some_iff.mp h
    obtain ⟨d', -, rfl⟩ := Option.map_eq_some_iff.mp h'
    exact .decimal d d'
  | boolean =>
    obtain ⟨b, -, rfl⟩ := Option.map_eq_some_iff.mp h
    obtain ⟨b', -, rfl⟩ := Option.map_eq_some_iff.mp h'
    exact .bool b b'
  | dateTime =>
    obtain ⟨t, -, rfl⟩ := Option.map_eq_some_iff.mp h
    obtain ⟨t', -, rfl⟩ := Option.map_eq_some_iff.mp h'
    exact .dateTime t t'
  | uuid =>
    obtain ⟨u, -, rfl⟩ := Option.map_eq_some_iff.mp h
    obtain ⟨u', -, rfl⟩ := Option.map_eq_some_iff.mp h'
    exact .uuid u u'

end Value

variable {S : Schema}

namespace Expr

/-- What is asked of a part of an expression: whether it holds, or what it stands for. -/
inductive Role where
  | condition
  | operand

/-- Two expressions, about the parameters `a` and `b`, are the same but for the constants among their
operands, which are alike. -/
inductive Alike (a b : Parameter S) : Role → Expr S → Expr S → Prop where
  | parameter {role : Role} {p p' : Parameter S} :
      (p = a ↔ p' = b) → Alike a b role (.parameter p) (.parameter p')
  | constant {v v' : Value} : v.Alike v' → Alike a b .operand (.constant v) (.constant v')
  /-- A constant that is a condition stays as it is. -/
  | truth (v : Value) : Alike a b .condition (.constant v) (.constant v)
  | member {role : Role} {target target' : Expr S} (m : Member S) :
      Alike a b .operand target target' → Alike a b role (.member target m) (.member target' m)
  | project {role : Role} {target target' : Expr S} (p : Projection S) :
      Alike a b .operand target target' → Alike a b role (.project target p) (.project target' p)
  | compare {role : Role} {l l' r r' : Expr S} (op : CompareOp) : Alike a b .operand l l' →
      Alike a b .operand r r' → Alike a b role (.compare op l r) (.compare op l' r')
  | call {role : Role} {target target' : Expr S} {args args' : List (Expr S)} (m : Method) :
      Alike a b .operand target target' → args.length = args'.length →
        (∀ q ∈ args.zip args', Alike a b .operand q.1 q.2) →
          Alike a b role (.call m target args) (.call m target' args')
  | and {role : Role} {l l' r r' : Expr S} : Alike a b .condition l l' → Alike a b .condition r r' →
      Alike a b role (.and l r) (.and l' r')
  | or {role : Role} {l l' r r' : Expr S} : Alike a b .condition l l' → Alike a b .condition r r' →
      Alike a b role (.or l r) (.or l' r')
  | not {role : Role} {e e' : Expr S} : Alike a b .condition e e' → Alike a b role (.not e) (.not e')
  | test {role : Role} {t t' : OpaqueTest S} : t.label = t'.label → (t.subject = a ↔ t'.subject = b) →
      Alike a b role (.test t) (.test t')

namespace Alike

variable {a b c d : Parameter S} {role : Role} {e e' : Expr S}

theorem negate (h : Alike a b .condition e e') : Alike a b .condition e.negate e'.negate := by
  have hnot : Alike a b .condition (.not e) (.not e') := .not h
  cases h with
  | not h => exact h
  | parameter | truth | member | project | compare | call | and | or | test => exact hnot

/-- Expressions that mention no parameter but their own stay alike if it is renamed. -/
theorem rename (h : Alike a b role e e') (hc : c.entity = a.entity) (hd : d.entity = b.entity)
    (ha : ∀ p ∈ e.parameters, p = a) : Alike c d role (e.rename a c hc) (e'.rename b d hd) := by
  induction h with
  | @parameter role p p' hp =>
    have hpa : p = a := ha p (List.mem_singleton_self p)
    rw [Expr.rename, Expr.rename, if_pos hpa, if_pos (hp.mp hpa)]
    exact .parameter (by simp)
  | constant hv => exact .constant hv
  | truth v => exact .truth v
  | member m _ ih => exact .member m (ih ha)
  | project p _ ih => exact .project p (ih ha)
  | compare op _ _ ihl ihr =>
    obtain ⟨hl, hr⟩ := List.forall_mem_append.mp ha
    exact .compare op (ihl hl) (ihr hr)
  | @call role target target' args args' m _ hlength _ iht ihargs =>
    obtain ⟨htarget, hargs⟩ := List.forall_mem_append.mp ha
    rw [Expr.rename, Expr.rename, renames_eq_map, renames_eq_map]
    refine .call m (iht htarget) (by simpa using hlength) fun q hq => ?_
    rw [List.zip_map] at hq
    obtain ⟨q', hq', rfl⟩ := List.mem_map.mp hq
    exact ihargs q' hq' fun p hp => hargs p (mem_parametersOf.mpr ⟨q'.1, (List.of_mem_zip hq').1, hp⟩)
  | and _ _ ihl ihr =>
    obtain ⟨hl, hr⟩ := List.forall_mem_append.mp ha
    exact .and (ihl hl) (ihr hr)
  | or _ _ ihl ihr =>
    obtain ⟨hl, hr⟩ := List.forall_mem_append.mp ha
    exact .or (ihl hl) (ihr hr)
  | not _ ih => exact .not (ih ha)
  | @test role t t' hlabel hs =>
    have hta : t.subject = a := ha _ (List.mem_singleton_self _)
    rw [Expr.rename, Expr.rename, dif_pos hta, dif_pos (hs.mp hta)]
    exact .test hlabel (by simp)

end Alike

end Expr

end EntityQuery

import EntityQuery.Expr.Basic

/-!
# Substitution

Expressions made apart have parameters of their own, which have to be made one before the expressions
can be joined. Renaming puts one parameter in the place of another over the same type and always
succeeds. A substitution puts entity expressions in the place of parameters, all at once; it fails where
an opaque test would be applied to anything but a parameter over its type, since nothing is known of the
test but its function.
-/

namespace EntityQuery

variable {S : Schema}

namespace Expr

mutual

/-- The expression with `b` in the place of `a`. -/
def rename (a b : Parameter S) (h : b.entity = a.entity) : Expr S → Expr S
  | .parameter p => .parameter (if p = a then b else p)
  | .constant v => .constant v
  | .member target m => .member (rename a b h target) m
  | .project target p => .project (rename a b h target) p
  | .compare op l r => .compare op (rename a b h l) (rename a b h r)
  | .call m target args => .call m (rename a b h target) (renames a b h args)
  | .and l r => .and (rename a b h l) (rename a b h r)
  | .or l r => .or (rename a b h l) (rename a b h r)
  | .not inner => .not (rename a b h inner)
  | .test t => .test (if ht : t.subject = a then t.withSubject b (by rw [h, ht]) else t)

/-- The arguments of a call with `b` in the place of `a`. -/
def renames (a b : Parameter S) (h : b.entity = a.entity) : List (Expr S) → List (Expr S)
  | [] => []
  | e :: rest => rename a b h e :: renames a b h rest

end

theorem renames_eq_map (a b : Parameter S) (h : b.entity = a.entity) (es : List (Expr S)) :
    renames a b h es = es.map (rename a b h) := by
  induction es with
  | nil => rfl
  | cons e rest ih => simp [renames, ih]

end Expr

/-! ### Replacing parameters by expressions -/

/-- A replacement for each of some parameters. No parameter has two. -/
structure Substitution (S : Schema) where
  replacements : List (Parameter S × Expr S) := []
  nodup : (replacements.map Prod.fst).Nodup := by simp

namespace Substitution

/-- The replacement of a parameter. -/
def find? (s : Substitution S) (p : Parameter S) : Option (Expr S) :=
  (s.replacements.find? fun q => q.1 = p).map Prod.snd

/-- Registers a replacement, instead of an earlier one for the same parameter. -/
def replace (s : Substitution S) (p : Parameter S) (e : Expr S) : Substitution S where
  replacements := s.replacements.filter (fun q => q.1 ≠ p) ++ [(p, e)]
  nodup := by
    rw [List.map_append, List.nodup_append]
    refine ⟨?_, by simp, ?_⟩
    · exact List.Nodup.sublist (List.Sublist.map _ List.filter_sublist) s.nodup
    · intro a ha b hb
      simp only [List.map_cons, List.map_nil, List.mem_singleton] at hb
      subst hb
      simp only [List.mem_map, List.mem_filter, decide_eq_true_eq] at ha
      obtain ⟨q, ⟨_, hq⟩, rfl⟩ := ha
      simpa using hq

/-- How many parameters are replaced. -/
def size (s : Substitution S) : Nat := s.replacements.length

/-- Why a test cannot be moved to what replaces its subject. -/
def testError (t : OpaqueTest S) (replacement : Expr S) : QueryError :=
  QueryError.withSuggestion (.unsupportedNode (Expr.toText (.test t)) "Parameter rebinding")
    s!"Opaque test '{t.label}' cannot be applied to {replacement.toText}; express it with properties instead"

/-- A test with its subject replaced. -/
def applyTest (s : Substitution S) (t : OpaqueTest S) : Result (Expr S) :=
  match s.find? t.subject with
  | none => .ok (.test t)
  | some (.parameter p) =>
    if h : p.entity = t.subject.entity then .ok (.test (t.withSubject p h))
    else .error (testError t (.parameter p))
  | some e => .error (testError t e)

mutual

/-- The expression with all parameters replaced at once. -/
def apply (s : Substitution S) : Expr S → Result (Expr S)
  | .parameter p => .ok ((s.find? p).getD (.parameter p))
  | .constant v => .ok (.constant v)
  | .member target m => do .ok (.member (← apply s target) m)
  | .project target p => do .ok (.project (← apply s target) p)
  | .compare op left right => do
    let left ← apply s left
    let right ← apply s right
    .ok (.compare op left right)
  | .call m target args => do
    let target ← apply s target
    let args ← applyEach s args
    .ok (.call m target args)
  | .and left right => do
    let left ← apply s left
    let right ← apply s right
    .ok (.and left right)
  | .or left right => do
    let left ← apply s left
    let right ← apply s right
    .ok (.or left right)
  | .not inner => do .ok (.not (← apply s inner))
  | .test t => applyTest s t

/-- The arguments of a call with all parameters replaced at once. -/
def applyEach (s : Substitution S) : List (Expr S) → Result (List (Expr S))
  | [] => .ok []
  | e :: rest => do
    let e ← apply s e
    let rest ← applyEach s rest
    .ok (e :: rest)

end

@[simp] theorem find?_empty (p : Parameter S) : ({} : Substitution S).find? p = none := rfl

@[simp] theorem find?_replace_self (s : Substitution S) (p : Parameter S) (e : Expr S) :
    (s.replace p e).find? p = some e := by
  have h : (s.replacements.filter fun q => q.1 ≠ p).find? (fun q => q.1 = p) = none := by simp
  simp only [find?, replace, List.find?_append, h]
  simp

theorem find?_replace_of_ne (s : Substitution S) {p q : Parameter S} (e : Expr S) (h : q ≠ p) :
    (s.replace p e).find? q = s.find? q := by
  have h' : ¬p = q := fun hp => h hp.symm
  simp only [find?, replace, List.find?_append, List.find?_filter]
  congr 1
  simp only [List.find?_cons, h', decide_false, List.find?_nil, Option.or_none]
  congr 1
  funext r
  by_cases hr : r.1 = q <;> simp_all

end Substitution

end EntityQuery

import EntityQuery.Proofs.Expr.Simultaneous

/-!
# Renaming can be undone

Renaming does the same to every node of an expression: the operands are renamed, and the parameter that the
node mentions, by itself or as the subject of a test, gives way if it is the one that is renamed
(`Expr.operands_rename`, `Expr.subject?_rename`, `Expr.test?_rename`). So an expression keeps its size, and its
parameters and tests are renamed one by one. A substitution that has nothing but the new parameter for the old one
does just this, and never fails.

What was renamed is restored when it is renamed back, exactly if the new parameter was not mentioned before or is
the old one (`Expr.renaming_reversible`). Otherwise the two have been confused.
-/

namespace EntityQuery

variable {S : Schema} {a b : Parameter S}

/-! ### One parameter, one test -/

/-- What becomes of a parameter where `a` is renamed to `b`. -/
def Parameter.renamed (p a b : Parameter S) : Parameter S := if p = a then b else p

/-- What becomes of a test where `a` is renamed to `b`: it asks the same of its subject, which is renamed. -/
def OpaqueTest.renamed (t : OpaqueTest S) (a b : Parameter S) (h : b.entity = a.entity) : OpaqueTest S :=
  if ht : t.subject = a then t.withSubject b (by rw [h, ht]) else t

/-- No two of the parameters have one identity. -/
def Parameter.Identified (ps : List (Parameter S)) : Prop := ∀ p ∈ ps, ∀ q ∈ ps, p.id = q.id → p = q

/-- The substitution that has the parameter `b` for `a`, and nothing else. -/
def Substitution.ofRenaming (a b : Parameter S) : Substitution S :=
  (⟨[], List.nodup_nil⟩ : Substitution S).replace a (.parameter b)

theorem OpaqueTest.subject_renamed (h : b.entity = a.entity) (t : OpaqueTest S) :
    (t.renamed a b h).subject = t.subject.renamed a b := by
  by_cases ht : t.subject = a <;> simp [renamed, Parameter.renamed, ht]

/-- A parameter that is renamed is gone, unless it keeps its name. -/
theorem Parameter.eq_of_renamed_eq {p : Parameter S} (h : p.renamed a b = a) : a = b := by
  rw [renamed] at h
  split at h
  · exact h.symm
  · contradiction

theorem Substitution.find?_ofRenaming (p : Parameter S) :
    (ofRenaming a b).find? p = if p = a then some (.parameter b) else none := by
  by_cases hp : p = a
  · rw [hp, ofRenaming, find?_replace_self, if_pos rfl]
  · rw [ofRenaming, find?_replace_of_ne _ _ hp, find?_empty, if_neg hp]

/-- Among parameters with identities of their own, it is enough to look at these. -/
theorem Substitution.find?_ofRenaming_of_identified {ps : List (Parameter S)}
    (hid : Parameter.Identified (a :: ps)) {p : Parameter S} (hp : p ∈ ps) :
    (ofRenaming a b).find? p = if p.id = a.id then some (.parameter b) else none := by
  have hsame : p = a ↔ p.id = a.id := by
    refine ⟨congrArg Parameter.id, fun h => ?_⟩
    exact hid p (List.mem_cons_of_mem a hp) a List.mem_cons_self h
  simp only [find?_ofRenaming, hsame]

namespace Expr

/-! ### One node -/

/-- The test that a node is, if it is one. -/
def Node.test? : Node S → Option (OpaqueTest S)
  | .test t => some t
  | _ => none

theorem testsOf_eq_flatMap (es : List (Expr S)) : testsOf es = es.flatMap tests := by
  induction es with
  | nil => rfl
  | cons e rest ih => rw [testsOf, ih, List.flatMap_cons]

/-- The tests of an expression are those of its outermost node and those of its operands. -/
theorem tests_eq (e : Expr S) : e.tests = e.node.test?.toList ++ e.operands.flatMap tests := by
  cases e <;> simp [tests, node, operands, Node.test?, testsOf_eq_flatMap]

/-- The outermost node counts as one. -/
theorem nodeCount_eq (e : Expr S) : e.nodeCount = nodeCounts e.operands + 1 := by
  cases e <;> simp [nodeCount, nodeCounts, operands]

variable (h : b.entity = a.entity)

theorem operands_rename (e : Expr S) : (e.rename a b h).operands = e.operands.map (rename a b h) := by
  cases e <;> simp [rename, operands, renames_eq_map]

theorem test?_rename (e : Expr S) :
    (e.rename a b h).node.test? = e.node.test?.map (·.renamed a b h) := by
  cases e <;> rfl

theorem subject?_rename (e : Expr S) :
    (e.rename a b h).node.subject? = e.node.subject?.map (·.renamed a b) := by
  cases e with
  | test t => exact congrArg some (OpaqueTest.subject_renamed h t)
  | parameter | constant | member | project | compare | call | and | or | not => rfl

/-! ### All nodes -/

/-- What is collected from renamed operands, if the members of it are renamed one by one in each. -/
theorem flatMap_map_rename {α : Type} {collect : Expr S → List α} {f : α → α} {es : List (Expr S)}
    (hes : ∀ e ∈ es, collect (e.rename a b h) = (collect e).map f) :
    (es.map (rename a b h)).flatMap collect = (es.flatMap collect).map f := by
  rw [List.flatMap_map, List.map_flatMap]
  exact List.flatMap_congr hes

theorem parameters_rename (e : Expr S) :
    (e.rename a b h).parameters = e.parameters.map (·.renamed a b) := by
  induction e using operands_induct with
  | step e ih =>
    rw [parameters_eq, parameters_eq e, operands_rename, subject?_rename, flatMap_map_rename h ih,
      List.map_append, Option.toList_map]

theorem tests_rename (e : Expr S) : (e.rename a b h).tests = e.tests.map (·.renamed a b h) := by
  induction e using operands_induct with
  | step e ih =>
    rw [tests_eq, tests_eq e, operands_rename, test?_rename, flatMap_map_rename h ih, List.map_append,
      Option.toList_map]

theorem nodeCounts_map_rename {es : List (Expr S)} (hes : ∀ e ∈ es, (e.rename a b h).nodeCount = e.nodeCount) :
    nodeCounts (es.map (rename a b h)) = nodeCounts es := by
  induction es with
  | nil => rfl
  | cons e rest ih =>
    obtain ⟨he, hrest⟩ := List.forall_mem_cons.mp hes
    rw [List.map_cons, nodeCounts, nodeCounts, he, ih hrest]

theorem nodeCount_rename (e : Expr S) : (e.rename a b h).nodeCount = e.nodeCount := by
  induction e using operands_induct with
  | step e ih => rw [nodeCount_eq, nodeCount_eq e, operands_rename, nodeCounts_map_rename h ih]

/-! ### There and back -/

/-- A parameter that an expression mentions can be renamed without effect only to itself. -/
theorem rename_eq_self_iff {e : Expr S} : e.rename a b h = e ↔ a ∉ e.parameters ∨ a = b := by
  constructor
  · intro he
    by_cases ha : a ∈ e.parameters
    · right
      rw [← he, parameters_rename, List.mem_map] at ha
      obtain ⟨p, -, hp⟩ := ha
      exact Parameter.eq_of_renamed_eq hp
    · exact .inl ha
  · rintro (ha | hab)
    · exact rename_eq_self h fun hmem => absurd hmem ha
    · exact rename_eq_self h fun _ => hab

/-- The substitution of a parameter by another over the same type never fails, and renames. It does not matter
whether parameters are compared or their identities, where these are their own. Every parameter and every test
of the expression is renamed in its place, no nodes are added or lost, and the expression is restored by renaming
back exactly if the new parameter was not mentioned in it, or is the old one. -/
theorem renaming_reversible (e : Expr S) :
    (Substitution.ofRenaming a b).apply e = .ok (e.rename a b h) ∧
      (Parameter.Identified (a :: e.parameters) → ∀ p ∈ e.parameters,
        (Substitution.ofRenaming a b).find? p = if p.id = a.id then some (.parameter b) else none) ∧
      (e.rename a b h).parameters = e.parameters.map (·.renamed a b) ∧
      (e.rename a b h).tests = e.tests.map (·.renamed a b h) ∧
      (e.rename a b h).nodeCount = e.nodeCount ∧
      ((e.rename a b h).rename b a h.symm = e ↔ b ∉ e.parameters ∨ b = a) := by
  refine ⟨Substitution.apply_replace_parameter h e, ?_, parameters_rename h e, tests_rename h e,
    nodeCount_rename h e, ?_⟩
  · intro hid p hp
    exact Substitution.find?_ofRenaming_of_identified hid hp
  · rw [rename_rename h.symm e, rename_eq_self_iff h.symm]

/-- A condition about people with a test in it is renamed and restored. One about two people is not, if it is
renamed to the other. -/
theorem renaming_reversible_insider :
    let z : Parameter People.schema := ⟨9, "z", People.person⟩
    let e := People.insider.body
    let both : Expr People.schema := .and e (.member (.parameter z) People.name)
    ∃ e', (Substitution.ofRenaming People.x z).apply e = .ok e' ∧ e'.parameters = [z, z] ∧ e'.nodeCount = 5 ∧
      e'.rename z People.x rfl = e ∧ (both.rename People.x z rfl).rename z People.x rfl ≠ both := by
  intro z e both
  obtain ⟨happly, -, hparameters, -, hcount, hback⟩ := renaming_reversible (a := People.x) (b := z) rfl e
  obtain ⟨-, -, -, -, -, hconfused⟩ := renaming_reversible (a := People.x) (b := z) rfl both
  have hxz : z ≠ People.x := by decide
  refine ⟨e.rename People.x z rfl, happly, hparameters, hcount, hback.mpr (.inl ?_), fun h => ?_⟩
  · decide
  · rcases hconfused.mp h with hz | hz
    · exact hz (by decide)
    · exact hxz hz

end Expr

end EntityQuery

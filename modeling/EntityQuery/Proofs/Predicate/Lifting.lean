import EntityQuery.Proofs.Expr.Substitution
import EntityQuery.Proofs.People
import EntityQuery.Proofs.Predicate.Evaluation

/-!
# Lifting specifications

A specification about rows of `t` is lifted to rows of `p` along a function from the one to the other, by a
projection in the place of its parameter. The lifted specification is satisfied by a row exactly if the old
one is by the row that the function leads to (`lift_of_tests_eq_nil`), so lifting twice is lifting along the
composed function. Only what has no opaque tests can be lifted, and everything else is reported as an
unsupported node (`lift_iff_comp`).
-/

namespace EntityQuery.Specification

open Fresh

variable {S : Schema} {t p : S.Entity} {a : Specification S t}

/-! ### What takes the place of the parameter -/

/-- The projection that takes the place of the parameter, about a new parameter. -/
def lifted (a : Specification S t) (label : String) (map : S.Row p → S.Row t) (id : Nat) : Expr S :=
  .project (.parameter ⟨id, a.tree.parameter.name, p⟩) ⟨label, p, t, map⟩

/-- Nothing is replaced twice where nothing is replaced. -/
theorem nodup_none : (([] : List (Parameter S × Expr S)).map Prod.fst).Nodup := List.nodup_nil

/-- The substitution by which a specification is lifted. -/
def liftBy (a : Specification S t) (label : String) (map : S.Row p → S.Row t) (id : Nat) :
    Substitution S :=
  Substitution.replace ⟨[], nodup_none⟩ a.tree.parameter (a.lifted label map id)

theorem lifted_locate (label : String) (map : S.Row p → S.Row t) (id : Nat) (r : S.Row p) :
    (a.lifted label map id).locate ⟨p, r⟩ = some ⟨t, map r⟩ := by
  simp [lifted, Projection.apply?]

theorem liftBy_leads (label : String) (map : S.Row p → S.Row t) (id : Nat) :
    (a.liftBy label map id).Leads a.tree.parameter ⟨id, a.tree.parameter.name, p⟩
      (a.lifted label map id) where
  find?_eq := Substitution.find?_replace_self ..
  fits := by
    rw [a.tree.entity_eq]
    exact .project .parameter

theorem tests_of_liftBy {label : String} {map : S.Row p → S.Row t} {id : Nat} {q : Parameter S}
    {g : Expr S} (hg : (a.liftBy label map id).find? q = some g) : g.tests = [] := by
  by_cases hq : q = a.tree.parameter
  · rw [hq, liftBy, Substitution.find?_replace_self] at hg
    obtain rfl := Option.some.inj hg
    rw [lifted, Expr.tests, Expr.tests]
  · rw [liftBy, Substitution.find?_replace_of_ne _ _ hq, Substitution.find?_empty] at hg
    cases hg

/-! ### The outcome -/

/-- To lift is to substitute in the body. -/
theorem lift_eq (label : String) (map : S.Row p → S.Row t) (s : Supply) :
    (a.lift label p map s).1 =
      ((a.liftBy label map s.parameters).apply a.tree.body).map fun body =>
        .ofTree ⟨s.trees, ⟨s.parameters, a.tree.parameter.name, p⟩, body, rfl⟩ := by
  rw [liftBy, lifted]
  simp only [lift, Fresh.bind_apply, Fresh.parameterId]
  cases (({} : Substitution S).replace a.tree.parameter _).apply a.tree.body <;> rfl

/-- A specification without tests is lifted to one without tests, which means what the old one means at the
rows that the function leads to. -/
theorem lift_of_tests_eq_nil {f : S.Row t → Bool} (ha : a.Means f) (ht : a.tree.body.tests = [])
    (label : String) (map : S.Row p → S.Row t) :
    (a.lift label p map).Ensures fun out =>
      ∃ b, out = .ok b ∧ b.tree.body.tests = [] ∧ b.Means fun r => f (map r) := by
  intro s
  obtain ⟨body, happly, hfits, hmeans⟩ :=
    Substitution.moves_of_fits (liftBy_leads label map s.parameters) ha.fits (.inl ht)
  rw [lift_eq, happly]
  refine ⟨_, rfl, ?_, means_of_fits hfits fun r => ?_⟩
  · exact Substitution.tests_of_apply_eq_ok (fun _ _ => tests_of_liftBy) happly ht
  · have hbody := (hmeans ⟨p, r⟩ ⟨t, map r⟩ (lifted_locate label map s.parameters r)).2
    have hholds : body.holdsAt ⟨p, r⟩ = a.tree.body.holdsAt ⟨t, map r⟩ := by
      rw [Expr.holdsAt, hbody, Expr.holdsAt]
    exact hholds.trans (ha.holdsAt_eq (map r))

/-- A specification with a test cannot be lifted. -/
theorem tests_of_lift_eq_ok (ha : a.Compiles) {label : String} {map : S.Row p → S.Row t} {s : Supply}
    {b : Specification S p} (hb : (a.lift label p map s).1 = .ok b) : a.tree.body.tests = [] := by
  rw [lift_eq] at hb
  obtain ⟨body, happly, -⟩ := map_eq_ok_iff.mp hb
  refine List.eq_nil_iff_forall_not_mem.mpr fun u hu => ?_
  obtain ⟨d, hd⟩ := Substitution.applyTest_of_apply_eq_ok happly hu
  have hsubject := (compiles_iff.mp ha).subject_of_mem_tests hu
  have hfind : (a.liftBy label map s.parameters).find? u.subject =
      some (a.lifted label map s.parameters) := by
    rw [hsubject]
    exact (liftBy_leads label map s.parameters).find?_eq
  have hproject : ∀ q, a.lifted label map s.parameters ≠ .parameter q := by
    intro q hq
    cases hq
  exact absurd hd (Substitution.applyTest_ne_ok hfind hproject d)

theorem code_of_lift_eq_error {label : String} {map : S.Row p → S.Row t} {s : Supply}
    {err : QueryError} (h : (a.lift label p map s).1 = .error err) :
    err.code = .unsupportedNodeKind := by
  rw [lift_eq] at h
  cases hb : (a.liftBy label map s.parameters).apply a.tree.body with
  | ok body =>
    rw [hb] at h
    cases h
  | error e =>
    rw [hb] at h
    obtain rfl := Except.error.inj h
    obtain ⟨u, -, hu⟩ := Substitution.exists_test_of_apply_eq_error hb
    exact Substitution.code_of_applyTest_eq_error hu

/-! ### Lifting is composition -/

/-- A specification that compiles is lifted exactly if it has no opaque tests, and what else there is is
reported as an unsupported node. The lifted specification compiles, and a row satisfies it if the old one
is satisfied by the row that the function leads to. To lift it once more is to lift along the composed
function. -/
theorem lift_iff_comp (ha : a.Compiles) (label : String) (map : S.Row p → S.Row t) (s : Supply) :
    ((∃ b, (a.lift label p map s).1 = .ok b) ↔ a.tree.body.tests = []) ∧
      (∀ err, (a.lift label p map s).1 = .error err → err.code = .unsupportedNodeKind) ∧
      ∀ b, (a.lift label p map s).1 = .ok b →
        b.Compiles ∧ (∀ r, b.isSatisfiedBy r = a.isSatisfiedBy (map r)) ∧
        (∀ f, a.Means f → b.Means fun r => f (map r)) ∧
        ∀ (q : S.Entity) (next once : String) (map' : S.Row q → S.Row p) (s₁ s₂ : Supply),
          ∃ c d f, (b.lift next q map' s₁).1 = .ok c ∧
            (a.lift once q (fun r => map (map' r)) s₂).1 = .ok d ∧ c.Means f ∧ d.Means f := by
  have hlift : a.tree.body.tests = [] → ∀ f, a.Means f →
      ∃ b, (a.lift label p map s).1 = .ok b ∧ b.tree.body.tests = [] ∧ b.Means fun r => f (map r) :=
    fun ht f hf => lift_of_tests_eq_nil hf ht label map s
  refine ⟨⟨?_, ?_⟩, fun err => code_of_lift_eq_error, fun b hb => ?_⟩
  · rintro ⟨b, hb⟩
    exact tests_of_lift_eq_ok ha hb
  · intro ht
    obtain ⟨b, hb, -, -⟩ := hlift ht _ ha.means
    exact ⟨b, hb⟩
  · have ht := tests_of_lift_eq_ok ha hb
    have hmeans : b.tree.body.tests = [] ∧ ∀ f, a.Means f → b.Means fun r => f (map r) := by
      refine ⟨?_, fun f hf => ?_⟩
      · obtain ⟨b', hb', hn, -⟩ := hlift ht _ ha.means
        obtain rfl := Except.ok.inj (hb.symm.trans hb')
        exact hn
      · obtain ⟨b', hb', -, hm⟩ := hlift ht f hf
        obtain rfl := Except.ok.inj (hb.symm.trans hb')
        exact hm
    obtain ⟨hn, hm⟩ := hmeans
    refine ⟨(hm _ ha.means).compiles, fun r => ?_, hm, fun q next once map' s₁ s₂ => ?_⟩
    · rw [(hm _ ha.means).direct, ha.means.direct]
    · obtain ⟨c, hc, -, hcm⟩ := lift_of_tests_eq_nil (hm _ ha.means) hn next map' s₁
      obtain ⟨d, hd, -, hdm⟩ := lift_of_tests_eq_nil ha.means ht once (fun r => map (map' r)) s₂
      exact ⟨c, d, _, hc, hd, hcm, hdm⟩

/-- The people whose employer is not listed. -/
theorem lift_iff_comp_unlisted :
    ∃ b, (People.unlisted.lift "Employer" .person People.Person.employer {}).1 = .ok b ∧
      b.isSatisfiedBy People.ada = .ok false ∧ b.isSatisfiedBy People.bob = .ok true := by
  have hcompiles : People.unlisted.Compiles := ⟨_, rfl⟩
  have h := @lift_iff_comp People.schema .company .person _ hcompiles "Employer" People.Person.employer {}
  obtain ⟨b, hb⟩ := h.1.mpr rfl
  have hsat := (h.2.2 b hb).2.1
  exact ⟨b, hb, hsat People.ada, hsat People.bob⟩

end EntityQuery.Specification

import EntityQuery.Proofs.Expr.Refusal
import EntityQuery.Proofs.Expr.Renaming
import EntityQuery.Proofs.People
import EntityQuery.Proofs.Predicate.Evaluation
import Mathlib.Logic.Basic

/-!
# Malformed operands

Two specifications are joined about the parameter of the left one, and the right one is renamed to it. If
the left one is malformed, then so is what they are joined to. If the right one is, it may mention the
parameter of the left one without being about it, and that reference is bound by accident: what decides is
then whether the right one would be well formed if the reference were to its own parameter
(`Specification.capture`). Short of such references, specifications are joined to a malformed one exactly
if one of them is (`Specification.joined_malformed_iff`).
-/

namespace EntityQuery

variable {S : Schema} {t : S.Entity}

namespace Specification

variable {a b c : Specification S t}

/-- The specification does not compile, since its tree is malformed. -/
def Malformed (a : Specification S t) : Prop := ∃ e, a.tree.compile = .error e ∧ e.code = .invalidTree

/-- There is no other reason for which a specification does not compile. -/
theorem malformed_iff : a.Malformed ↔ ¬a.Compiles := by
  constructor
  · rintro ⟨e, he, -⟩ ⟨f, hf⟩
    rw [he] at hf
    cases hf
  · intro h
    cases hcompile : a.tree.compile with
    | ok f => exact absurd ⟨f, hcompile⟩ h
    | error e => exact ⟨e, hcompile, a.tree.compile_blamesTree e hcompile⟩

/-- The parameters of two specifications about rows of one type range over the same rows. -/
theorem entity_parameter (a b : Specification S t) : b.tree.parameter.entity = a.tree.parameter.entity :=
  b.tree.entity_eq.trans a.tree.entity_eq.symm

/-- The specification with every reference to the parameter of another one taken for a reference to its
own. -/
def capture (b a : Specification S t) : Specification S t :=
  ofTree { b.tree with
    body := b.tree.body.rename a.tree.parameter b.tree.parameter (entity_parameter a b) }

/-- A specification does not mention the parameter of another one, unless both have the same. -/
def Apart (a b : Specification S t) : Prop :=
  a.tree.parameter ∈ b.tree.body.parameters → a.tree.parameter = b.tree.parameter

/-- The right operand takes its place about the parameter of the left one if it compiles with the
references that are captured. -/
theorem renamed_fits_iff :
    (a.renamed b).Fits a.tree.parameter .condition ↔ (b.capture a).Compiles := by
  rw [compiles_iff, renamed, Expr.fits_rename_iff]
  rfl

/-- Nothing is captured from a specification that does not mention the parameter. -/
theorem capture_compiles_iff (h : a.Apart b) : (b.capture a).Compiles ↔ b.Compiles := by
  have hbody : (b.capture a).tree.body = b.tree.body := Expr.rename_eq_self _ h
  rw [compiles_iff, compiles_iff, hbody]
  rfl

/-- A specification that compiles mentions no parameter but its own. -/
theorem Compiles.apart (h : b.Compiles) : a.Apart b := fun ha =>
  (compiles_iff.mp h).eq_of_mem_parameters ha

/-- What two specifications are joined to is about the parameter of the left one, and fits if both do. -/
theorem derive_malformed_iff {body : Expr S} {s : Supply}
    (h : body.Fits a.tree.parameter .condition ↔
      a.tree.body.Fits a.tree.parameter .condition ∧ (a.renamed b).Fits a.tree.parameter .condition) :
    (a.derive body s).1.Malformed ↔ ¬a.Compiles ∨ ¬(b.capture a).Compiles := by
  have hderive : (a.derive body s).1.Compiles ↔ body.Fits a.tree.parameter .condition := compiles_iff
  rw [malformed_iff, hderive, h, ← compiles_iff, renamed_fits_iff, not_and_or]

/-- The conjunction or disjunction of two specifications is malformed exactly if the left one does not compile,
or the right one does not with the references that are captured. There are none of these if the right one does
not mention the parameter of the left one, and then it is enough that one of the two does not compile. Whatever
compiles does not mention it. -/
theorem joined_malformed_iff {s : Supply} (hc : c = (a.and b s).1 ∨ c = (a.or b s).1) :
    (c.Malformed ↔ ¬a.Compiles ∨ ¬(b.capture a).Compiles) ∧
      (a.Apart b → (c.Malformed ↔ ¬a.Compiles ∨ ¬b.Compiles)) ∧ (b.Compiles → a.Apart b) := by
  have hjoined : c.Malformed ↔ ¬a.Compiles ∨ ¬(b.capture a).Compiles := by
    rcases hc with rfl | rfl
    · exact derive_malformed_iff Expr.Fits.and_condition_iff
    · exact derive_malformed_iff Expr.Fits.or_condition_iff
  refine ⟨hjoined, fun h => ?_, Compiles.apart⟩
  rw [hjoined, capture_compiles_iff h]

end Specification

namespace People

/-- A condition about another person than the one it is asked of. -/
def stray : Specification schema person :=
  .ofTree ⟨5, ⟨2, "z", person⟩, .compare .gte (.member (.parameter x) age) (.constant (.int 18)), rfl⟩

theorem stray_malformed : stray.Malformed := ⟨_, rfl, rfl⟩

end People

namespace Specification

/-- The stray condition about `x` is found out when a condition about `x` is joined to it. -/
theorem joined_malformed_iff_stray :
    People.stray.Apart People.adult ∧ ¬People.stray.Compiles ∧
      (People.stray.or People.adult {}).1.Malformed := by
  have hapart : People.stray.Apart People.adult := by
    intro h
    simp [People.stray, People.adult, ofTree, Expr.parameters, People.x] at h
  have hstray : ¬People.stray.Compiles := malformed_iff.mp People.stray_malformed
  exact ⟨hapart, hstray, ((joined_malformed_iff (.inr rfl)).2.1 hapart).mpr (.inl hstray)⟩

/-- It is not found out when it is joined to a condition about `x`. -/
theorem not_malformed_captured :
    ¬∀ (a b : Specification People.schema People.person) (s : Supply), ¬a.Compiles ∨ ¬b.Compiles →
      (a.and b s).1.Malformed ∧ (a.or b s).1.Malformed := by
  intro h
  have hstray : ¬People.stray.Compiles := malformed_iff.mp People.stray_malformed
  obtain ⟨⟨e, he, -⟩, -⟩ := h People.adult People.stray {} (.inr hstray)
  cases he

end Specification

end EntityQuery

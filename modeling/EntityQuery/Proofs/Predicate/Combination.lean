import EntityQuery.Proofs.Expr.Substitution
import EntityQuery.Proofs.People
import EntityQuery.Proofs.Predicate.Evaluation
import Mathlib.Data.List.Forall2

/-!
# Formulas over specifications

Specifications are joined into formulas by conjunction, disjunction, negation and by the conjunction or
disjunction of a list. To join them is to compute with their truth values: the specification that a formula
comes to compiles, and a row satisfies it exactly if the formula is true of what the row makes of the
specifications at its leaves (`means_value`). The leaves may share parameters, or be the same; each only
has to compile by itself.

So formulas that are true under the same valuations come to specifications that are satisfied alike, and
the laws of Boolean algebra hold of specifications (`formula_specify`).
-/

namespace EntityQuery

/-! ### Formulas -/

/-- A formula whose leaves are in `α`. -/
inductive Formula (α : Type) where
  | base (a : α)
  | and (φ ψ : Formula α)
  | or (φ ψ : Formula α)
  | not (φ : Formula α)
  /-- The conjunction of all. -/
  | all (φs : List (Formula α))
  /-- The disjunction of all. -/
  | any (φs : List (Formula α))

namespace Formula

variable {α : Type}

mutual

/-- The leaves of a formula. -/
def bases : Formula α → List α
  | base a => [a]
  | and φ ψ | or φ ψ => φ.bases ++ ψ.bases
  | not φ => φ.bases
  | all φs | any φs => basesOf φs

/-- The leaves of several formulas. -/
def basesOf : List (Formula α) → List α
  | [] => []
  | φ :: rest => φ.bases ++ basesOf rest

end

mutual

/-- The truth value of a formula, given those of its leaves. -/
def value (v : α → Bool) : Formula α → Bool
  | base a => v a
  | and φ ψ => φ.value v && ψ.value v
  | or φ ψ => φ.value v || ψ.value v
  | not φ => !φ.value v
  | all φs => (values v φs).all id
  | any φs => (values v φs).any id

/-- The truth values of several formulas. -/
def values (v : α → Bool) : List (Formula α) → List Bool
  | [] => []
  | φ :: rest => φ.value v :: values v rest

end

theorem value_and (v : α → Bool) (φ ψ : Formula α) : (and φ ψ).value v = (φ.value v && ψ.value v) := rfl

theorem value_or (v : α → Bool) (φ ψ : Formula α) : (or φ ψ).value v = (φ.value v || ψ.value v) := rfl

theorem value_not (v : α → Bool) (φ : Formula α) : (not φ).value v = !φ.value v := rfl

/-- Two formulas have the same value, whatever their leaves stand for. -/
def Equivalent (φ ψ : Formula α) : Prop := ∀ v, φ.value v = ψ.value v

/-- Induction over formulas, in which every member of a list satisfies the hypothesis. -/
theorem induct {motive : Formula α → Prop} (base : ∀ a, motive (.base a))
    (and : ∀ φ ψ, motive φ → motive ψ → motive (.and φ ψ))
    (or : ∀ φ ψ, motive φ → motive ψ → motive (.or φ ψ)) (not : ∀ φ, motive φ → motive (.not φ))
    (all : ∀ φs, (∀ φ ∈ φs, motive φ) → motive (.all φs))
    (any : ∀ φs, (∀ φ ∈ φs, motive φ) → motive (.any φs)) (φ : Formula α) : motive φ :=
  @Formula.rec α motive (fun φs => ∀ φ ∈ φs, motive φ) base and or not all any (by simp)
    (fun _ _ hφ hφs => by simpa using ⟨hφ, hφs⟩) φ

theorem basesOf_eq_flatMap (φs : List (Formula α)) : basesOf φs = φs.flatMap bases := by
  induction φs with
  | nil => rw [basesOf, List.flatMap_nil]
  | cons φ rest ih => rw [basesOf, ih, List.flatMap_cons]

theorem values_eq_map (v : α → Bool) (φs : List (Formula α)) : values v φs = φs.map (value v) := by
  induction φs with
  | nil => rw [values, List.map_nil]
  | cons φ rest ih => rw [values, ih, List.map_cons]

end Formula

variable {S : Schema} {t : S.Entity}

namespace Formula

mutual

/-- The specification that a formula over specifications comes to. -/
def specify : Formula (Specification S t) → Fresh (Specification S t)
  | base a => return a
  | and φ ψ => do
    let a ← φ.specify
    let b ← ψ.specify
    a.and b
  | or φ ψ => do
    let a ← φ.specify
    let b ← ψ.specify
    a.or b
  | not φ => do
    let a ← φ.specify
    a.not
  | all φs => do
    let as ← specifyEach φs
    Specification.all t as
  | any φs => do
    let as ← specifyEach φs
    Specification.any t as

/-- The specifications that several formulas come to. -/
def specifyEach : List (Formula (Specification S t)) → Fresh (List (Specification S t))
  | [] => return []
  | φ :: rest => do
    let a ← φ.specify
    let as ← specifyEach rest
    return a :: as

end

/-- The truth value of a formula at a row, its leaves having the values that the row gives them. -/
def holds (φ : Formula (Specification S t)) (r : S.Row t) : Bool := φ.value fun a => a.accepts r

/-- All leaves compile. -/
def Compiles (φ : Formula (Specification S t)) : Prop := ∀ a ∈ φ.bases, a.Compiles

/-- Two formulas come to specifications that mean the same. -/
def Alike (φ ψ : Formula (Specification S t)) : Prop :=
  ∀ s s', ∃ f, (φ.specify s).1.Means f ∧ (ψ.specify s').1.Means f

end Formula

/-! ### One step -/

namespace Specification

open Fresh

variable {a b : Specification S t} {f g : S.Row t → Bool}

/-- A new specification about the parameter of an old one means what its body denotes. -/
theorem derive_means {body : Expr S} (h : body.Fits a.tree.parameter .condition)
    (hf : ∀ r, body.holdsAt ⟨t, r⟩ = f r) : (a.derive body).Ensures fun c => c.Means f := by
  intro s
  exact means_of_fits h hf

theorem renamed_fits (hb : b.Means g) : (a.renamed b).Fits a.tree.parameter .condition :=
  Expr.fits_rename _ hb.fits

theorem renamed_holdsAt (hb : b.Means g) (r : S.Row t) : (a.renamed b).holdsAt ⟨t, r⟩ = g r := by
  rw [renamed, Expr.holdsAt_rename _ hb.fits, hb.holdsAt_eq]

theorem Means.and (ha : a.Means f) (hb : b.Means g) :
    (a.and b).Ensures fun c => c.Means fun r => f r && g r := by
  refine derive_means (.and ha.fits (renamed_fits hb)) fun r => ?_
  rw [Expr.holdsAt_and, ha.holdsAt_eq, renamed_holdsAt hb]

theorem Means.or (ha : a.Means f) (hb : b.Means g) :
    (a.or b).Ensures fun c => c.Means fun r => f r || g r := by
  refine derive_means (.or ha.fits (renamed_fits hb)) fun r => ?_
  rw [Expr.holdsAt_or, ha.holdsAt_eq, renamed_holdsAt hb]

/-- Negation negates, whether it adds a negation or takes one away. -/
theorem Means.not (ha : a.Means f) : a.not.Ensures fun c => c.Means fun r => !f r := by
  refine derive_means ha.fits.negate fun r => ?_
  rw [Expr.holdsAt_negate, ha.holdsAt_eq]

theorem always_means : (always t : Fresh (Specification S t)).Ensures fun c => c.Means fun _ => true := by
  intro s
  exact means_of_fits (.truth true) fun _ => Expr.holdsAt_ofBool true

theorem never_means : (never t : Fresh (Specification S t)).Ensures fun c => c.Means fun _ => false := by
  intro s
  exact means_of_fits (.truth false) fun _ => Expr.holdsAt_ofBool false

/-! ### Lists -/

theorem foldlM_and_means {as : List (Specification S t)} {fs : List (S.Row t → Bool)}
    (h : List.Forall₂ Means as fs) (ha : a.Means f) :
    Ensures (as.foldlM Specification.and a) fun c => c.Means fun r => f r && fs.all fun g => g r := by
  induction h generalizing a f with
  | nil => exact .pure (by simpa using ha)
  | cons hb _ ih =>
    refine .bind (ha.and hb) fun c hc => ?_
    simpa [Bool.and_assoc] using ih hc

theorem foldlM_or_means {as : List (Specification S t)} {fs : List (S.Row t → Bool)}
    (h : List.Forall₂ Means as fs) (ha : a.Means f) :
    Ensures (as.foldlM Specification.or a) fun c => c.Means fun r => f r || fs.any fun g => g r := by
  induction h generalizing a f with
  | nil => exact .pure (by simpa using ha)
  | cons hb _ ih =>
    refine .bind (ha.or hb) fun c hc => ?_
    simpa [Bool.or_assoc] using ih hc

theorem all_means {as : List (Specification S t)} {fs : List (S.Row t → Bool)} (h : List.Forall₂ Means as fs) :
    (all t as).Ensures fun c => c.Means fun r => fs.all fun g => g r := by
  cases h with
  | nil => exact always_means
  | cons ha hs => exact foldlM_and_means hs ha

theorem any_means {as : List (Specification S t)} {fs : List (S.Row t → Bool)} (h : List.Forall₂ Means as fs) :
    (any t as).Ensures fun c => c.Means fun r => fs.any fun g => g r := by
  cases h with
  | nil => exact never_means
  | cons ha hs => exact foldlM_or_means hs ha

end Specification

/-! ### Formulas of any size -/

namespace Formula

open Fresh

theorem specifyEach_means {φs : List (Formula (Specification S t))}
    (h : ∀ φ ∈ φs, φ.specify.Ensures fun c => c.Means φ.holds) :
    (specifyEach φs).Ensures fun as => List.Forall₂ Specification.Means as (φs.map holds) := by
  induction φs with
  | nil => exact .pure .nil
  | cons φ rest ih =>
    obtain ⟨hφ, hrest⟩ := List.forall_mem_cons.mp h
    refine .bind hφ fun a ha => .bind (ih hrest) fun as has => ?_
    exact .pure (.cons ha has)

/-- A formula comes to a specification that compiles and means the value of the formula. -/
theorem means_value {φ : Formula (Specification S t)} (h : φ.Compiles) :
    φ.specify.Ensures fun c => c.Means φ.holds := by
  induction φ using Formula.induct with
  | base a => exact .pure (h a (List.mem_singleton.mpr rfl)).means
  | and φ ψ ihφ ihψ =>
    refine .bind (ihφ fun a ha => h a (List.mem_append_left _ ha)) fun a ha => ?_
    refine .bind (ihψ fun b hb => h b (List.mem_append_right _ hb)) fun b hb => ?_
    exact ha.and hb
  | or φ ψ ihφ ihψ =>
    refine .bind (ihφ fun a ha => h a (List.mem_append_left _ ha)) fun a ha => ?_
    refine .bind (ihψ fun b hb => h b (List.mem_append_right _ hb)) fun b hb => ?_
    exact ha.or hb
  | not φ ih => exact .bind (ih h) fun a ha => ha.not
  | all φs ih =>
    have hφs : ∀ φ ∈ φs, φ.Compiles := fun φ hφ a ha =>
      h a (by rw [bases, basesOf_eq_flatMap]; exact List.mem_flatMap.mpr ⟨φ, hφ, ha⟩)
    refine .bind (specifyEach_means fun φ hφ => ih φ hφ (hφs φ hφ)) fun as has => ?_
    have hvalue : (all φs).holds = fun r => (φs.map holds).all fun g => g r := by
      funext r
      simp [holds, value, values_eq_map, List.all_map, Function.comp_def]
    rw [hvalue]
    exact Specification.all_means has
  | any φs ih =>
    have hφs : ∀ φ ∈ φs, φ.Compiles := fun φ hφ a ha =>
      h a (by rw [bases, basesOf_eq_flatMap]; exact List.mem_flatMap.mpr ⟨φ, hφ, ha⟩)
    refine .bind (specifyEach_means fun φ hφ => ih φ hφ (hφs φ hφ)) fun as has => ?_
    have hvalue : (any φs).holds = fun r => (φs.map holds).any fun g => g r := by
      funext r
      simp [holds, value, values_eq_map, List.any_map, Function.comp_def]
    rw [hvalue]
    exact Specification.any_means has

theorem Equivalent.alike {φ ψ : Formula (Specification S t)} (h : φ.Equivalent ψ) (hφ : φ.Compiles)
    (hψ : ψ.Compiles) : φ.Alike ψ := by
  intro s s'
  refine ⟨φ.holds, means_value hφ s, ?_⟩
  have hvalue : ψ.holds = φ.holds := funext fun r => (h fun a => a.accepts r).symm
  rw [← hvalue]
  exact means_value hψ s'

theorem Compiles.and {φ ψ : Formula (Specification S t)} (hφ : φ.Compiles) (hψ : ψ.Compiles) :
    (φ.and ψ).Compiles := by
  intro a ha
  rw [bases, List.mem_append] at ha
  exact ha.elim (hφ a) (hψ a)

theorem Compiles.or {φ ψ : Formula (Specification S t)} (hφ : φ.Compiles) (hψ : ψ.Compiles) :
    (φ.or ψ).Compiles := by
  intro a ha
  rw [bases, List.mem_append] at ha
  exact ha.elim (hφ a) (hψ a)

theorem Compiles.not {φ : Formula (Specification S t)} (hφ : φ.Compiles) : φ.not.Compiles := by
  intro a ha
  rw [bases] at ha
  exact hφ a ha

/-! ### The laws -/

section Laws

variable (φ ψ χ : Formula (Specification S t))

theorem and_comm_equivalent : (φ.and ψ).Equivalent (ψ.and φ) := fun v => by
  rw [value_and, value_and, Bool.and_comm]

theorem or_comm_equivalent : (φ.or ψ).Equivalent (ψ.or φ) := fun v => by
  rw [value_or, value_or, Bool.or_comm]

theorem and_assoc_equivalent : ((φ.and ψ).and χ).Equivalent (φ.and (ψ.and χ)) := fun v => by
  rw [value_and, value_and, value_and, value_and, Bool.and_assoc]

theorem or_assoc_equivalent : ((φ.or ψ).or χ).Equivalent (φ.or (ψ.or χ)) := fun v => by
  rw [value_or, value_or, value_or, value_or, Bool.or_assoc]

theorem not_and_equivalent : (φ.and ψ).not.Equivalent (φ.not.or ψ.not) := fun v => by
  rw [value_not, value_and, value_or, value_not, value_not, Bool.not_and]

theorem not_or_equivalent : (φ.or ψ).not.Equivalent (φ.not.and ψ.not) := fun v => by
  rw [value_not, value_or, value_and, value_not, value_not, Bool.not_or]

theorem not_not_equivalent : φ.not.not.Equivalent φ := fun v => by
  rw [value_not, value_not, Bool.not_not]

end Laws

/-- Formulas over specifications that compile come to specifications that compile and mean the value of
the formula. Hence formulas that are true under the same valuations are satisfied alike, and so are the
two sides of each law: commutativity, associativity, the laws of De Morgan and double negation. -/
theorem formula_specify {φ ψ χ : Formula (Specification S t)} (hφ : φ.Compiles) (hψ : ψ.Compiles)
    (hχ : χ.Compiles) :
    (∀ s, (φ.specify s).1.Means fun r => φ.value fun a => a.accepts r) ∧
      (φ.Equivalent ψ → φ.Alike ψ) ∧
      (φ.and ψ).Alike (ψ.and φ) ∧ (φ.or ψ).Alike (ψ.or φ) ∧
      ((φ.and ψ).and χ).Alike (φ.and (ψ.and χ)) ∧ ((φ.or ψ).or χ).Alike (φ.or (ψ.or χ)) ∧
      (φ.and ψ).not.Alike (φ.not.or ψ.not) ∧ (φ.or ψ).not.Alike (φ.not.and ψ.not) ∧
      φ.not.not.Alike φ := by
  refine ⟨means_value hφ, fun h => h.alike hφ hψ, ?_, ?_, ?_, ?_, ?_, ?_, ?_⟩
  · exact (and_comm_equivalent φ ψ).alike (hφ.and hψ) (hψ.and hφ)
  · exact (or_comm_equivalent φ ψ).alike (hφ.or hψ) (hψ.or hφ)
  · exact (and_assoc_equivalent φ ψ χ).alike ((hφ.and hψ).and hχ) (hφ.and (hψ.and hχ))
  · exact (or_assoc_equivalent φ ψ χ).alike ((hφ.or hψ).or hχ) (hφ.or (hψ.or hχ))
  · exact (not_and_equivalent φ ψ).alike (hφ.and hψ).not (hφ.not.or hψ.not)
  · exact (not_or_equivalent φ ψ).alike (hφ.or hψ).not (hφ.not.and hψ.not)
  · exact (not_not_equivalent φ).alike hφ.not.not hφ

/-- Whoever is no adult with an employer that is not listed. -/
theorem formula_specify_adult :
    ∃ f, (((base People.adult).and (base People.employed).not).not.specify {}).1.Means f ∧
      f People.ada = true ∧ f People.bob = false := by
  have hadult : (base People.adult).Compiles := by
    intro a ha
    rw [List.mem_singleton.mp ha]
    exact ⟨_, rfl⟩
  have hemployed : (base People.employed).Compiles := by
    intro a ha
    rw [List.mem_singleton.mp ha]
    exact ⟨_, rfl⟩
  have h := (formula_specify (hadult.and hemployed.not).not hadult hemployed).1 {}
  exact ⟨_, h, rfl, rfl⟩

end Formula

end EntityQuery

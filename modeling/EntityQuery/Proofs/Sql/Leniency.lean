import EntityQuery.Proofs.Sql.Agreement
import EntityQuery.Proofs.Sql.Columns

/-!
# What is rendered without being well formed

The renderer checks on its way what the compiler checks, except for one thing: it follows the projections of
an entity expression to the parameter and does not look at the types on this way. So a tree that is rendered
has every part in a legal place, and the columns that are written start from the parameter. It compiles
exactly if, moreover, every property it reads is read from a row of its owner
(`Sql.render_compiles_iff`). Of an overlap with nothing not even the parameter is looked at, since no column
is written.
-/

namespace EntityQuery

variable {S : Schema}

namespace Expr

variable {bound : Parameter S} {e : Expr S}

theorem mem_readsAll {es : List (Expr S)} {r : Expr S × Member S} :
    r ∈ readsAll es ↔ ∃ e ∈ es, r ∈ e.reads := by
  induction es with
  | nil => simp [readsAll]
  | cons e rest ih => simp [readsAll, ih]

/-- Every property is read from a row of its owner. -/
def ReadsFit (bound : Parameter S) (e : Expr S) : Prop := ∀ r ∈ e.reads, r.1.Fits bound (.row r.2.owner)

theorem readsFit_operands {l r : Expr S} (h : e.reads = l.reads ++ r.reads) :
    ReadsFit bound e ↔ ReadsFit bound l ∧ ReadsFit bound r := by
  rw [ReadsFit, h]
  exact List.forall_mem_append

theorem readsFit_member {target : Expr S} {m : Member S} :
    ReadsFit bound (.member target m) ↔ target.Fits bound (.row m.owner) :=
  List.forall_mem_singleton

theorem Fits.readsFit {place : Place S} (h : Fits bound e place) : ReadsFit bound e := by
  induction h with
  | parameter | constant | truth | test => exact fun _ hr => absurd hr List.not_mem_nil
  | project _ ih | not _ ih | asValue _ ih => exact ih
  | member h _ | flag h _ _ => exact readsFit_member.mpr h
  | compare _ _ ihl ihr | and _ _ ihl ihr | or _ _ ihl ihr => exact (readsFit_operands rfl).mpr ⟨ihl, ihr⟩
  | call _ _ _ iht iha =>
    refine List.forall_mem_append.mpr ⟨iht, fun r hr => ?_⟩
    obtain ⟨e, he, hr⟩ := mem_readsAll.mp hr
    exact iha e he r hr

/-- A call whose only argument is a constant. -/
theorem fits_call_constant {m : Method} {target : Expr S} {p : Member S} {v : Value} (hm : m.arity = 1)
    (h : ReadsFit bound (.call m (.member target p) [.constant v])) :
    Fits bound (.call m (.member target p) [.constant v]) .condition := by
  refine .call hm.symm (.member (h (target, p) (List.mem_singleton_self _))) fun e he => ?_
  rw [List.mem_singleton.mp he]
  exact .constant v

end Expr

namespace Sql

variable {bound : Parameter S} {e : Expr S}

theorem fits_of_scalar {s : Scalar} (h : scalar bound e = .ok s) (hr : e.ReadsFit bound) :
    e.Fits bound .value := by
  rcases scalar_eq_ok h with ⟨v, rfl, -⟩ | ⟨target, m, c, rfl, -, -⟩
  · exact .constant v
  · exact .member (Expr.readsFit_member.mp hr)

/-- What is rendered fits the place of a condition, if every property is read from a row of its owner. -/
theorem Rendered.fits {c : Condition} (h : Rendered bound e c) (hr : e.ReadsFit bound) :
    e.Fits bound .condition := by
  induction h with
  | truth b => exact .truth b
  | flag hm _ => exact .flag (Expr.readsFit_member.mp hr) hm
  | compare _ ha hb | unequal ha hb =>
    obtain ⟨hl, hr⟩ := (Expr.readsFit_operands rfl).mp hr
    exact .compare (fits_of_scalar ha hl) (fits_of_scalar hb hr)
  | @like m _ _ _ _ _ _ _ hm _ =>
    have harity : m.arity = 1 := by
      cases m with
      | isDefault => cases hm
      | contains | startsWith | endsWith | textEquals | overlaps | setEquals => rfl
    exact Expr.fits_call_constant harity hr
  | textEquals | overlapsNone | overlaps => exact Expr.fits_call_constant rfl hr
  | isDefault _ _ =>
    exact .call rfl (.member (hr _ (List.mem_singleton_self _))) fun _ he => absurd he List.not_mem_nil
  | and _ _ ihl ihr =>
    obtain ⟨hl, hr⟩ := (Expr.readsFit_operands rfl).mp hr
    exact .and (ihl hl) (ihr hr)
  | or _ _ ihl ihr =>
    obtain ⟨hl, hr⟩ := (Expr.readsFit_operands rfl).mp hr
    exact .or (ihl hl) (ihr hr)
  | not _ ih => exact .not (ih hr)

/-- A tree that is rendered compiles exactly if every property it reads is read from a row of its owner. The
columns that are written start from its parameter in any case. -/
theorem render_compiles_iff {t : S.Entity} {d : Dialect} {tree : Tree S t} {q : Fragment}
    (h : render d tree = .ok q) :
    ((∃ f, tree.compile = .ok f) ↔ ∀ r ∈ tree.body.reads, r.1.Fits tree.parameter (.row r.2.owner)) ∧
      ∀ r ∈ tree.body.printed, r.1.root? = some tree.parameter := by
  obtain ⟨c, hc, -⟩ := exists_rendered_of_render h
  refine ⟨⟨?_, fun hr => ⟨_, Tree.compile_eq_ok (hc.fits hr)⟩⟩, hc.columns.root⟩
  rintro ⟨f, hf⟩
  exact (Tree.compile_eq_ok_iff_fits.mp hf).1.readsFit

/-- Every property that makes a candidate is read from its owner. -/
theorem render_compiles_iff_candidate : ∃ q f,
    render .postgres People.candidate = .ok q ∧
      (∀ r ∈ People.candidate.body.reads, r.1.Fits People.candidate.parameter (.row r.2.owner)) ∧
        People.candidate.compile = .ok f := by
  have hreads := People.candidate_fits.readsFit
  obtain ⟨q, hq⟩ : ∃ q, render .postgres People.candidate = .ok q := ⟨_, rfl⟩
  obtain ⟨f, hf⟩ := (render_compiles_iff hq).1.mpr hreads
  exact ⟨q, f, hq, hreads, hf⟩

/-- A property of companies is rendered where it is read from a person. -/
theorem not_render_compiles :
    ¬∀ (d : Dialect) (tree : Tree People.schema People.person) (q : Fragment), render d tree = .ok q →
      ∃ f, tree.compile = .ok f := by
  intro h
  obtain ⟨f, hf⟩ := h .postgres People.misplaced _ rfl
  cases hf

end Sql

end EntityQuery

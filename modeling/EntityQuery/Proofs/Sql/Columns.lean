import EntityQuery.Proofs.Sql.Rendering
import Mathlib.Data.List.Forall2

/-!
# The columns of a condition

A rendered condition writes the columns of properties that the expression reads, one after the other, some
twice and some not at all (`Expr.printed`, `Rendered.columns`). Each of them is named by the labels on the way
from the parameter to the property (`Columns.eq_map`), and the way does start from the parameter
(`Columns.root`).
-/

namespace EntityQuery

variable {S : Schema}

namespace Expr

/-- The parameter that an entity expression starts from. -/
def root? : Expr S → Option (Parameter S)
  | .parameter p => some p
  | .project target _ => target.root?
  | _ => none

/-- The properties whose columns are written for an expression, each with the entity that it is read from, in
the order in which they are written. The test for the default names its column twice, and an overlap with
nothing names none. -/
def printed : Expr S → List (Expr S × Member S)
  | .member target m => [(target, m)]
  | .compare _ l r | .and l r | .or l r => printed l ++ printed r
  | .call .isDefault target _ => printed target ++ printed target
  | .call .overlaps target [.constant v] => if v.members.isEmpty then [] else printed target
  | .call _ target _ => printed target
  | .not e => printed e
  | _ => []

end Expr

namespace Sql

/-! ### Columns written -/

/-- The columns that a scalar writes. -/
def Scalar.columns : Scalar → List Column
  | column c | lower c => [c]
  | bound _ => []

/-- The columns that a condition writes, in their order. -/
def Condition.columns : Condition → List Column
  | literal _ => []
  | compare _ l r => l.columns ++ r.columns
  | like s _ | isIn s _ => s.columns
  | nullOr c _ => [c, c]
  | and l r | or l r => l.columns ++ r.columns
  | notTrue c => c.columns

variable {bound : Parameter S} {e : Expr S}

/-- The columns are those of the properties, about the parameter. -/
def Columns (bound : Parameter S) (cs : List Column) (rs : List (Expr S × Member S)) : Prop :=
  List.Forall₂ (fun c r => column bound r.1 r.2 = .ok c) cs rs

theorem Columns.single {target : Expr S} {m : Member S} {c : Column} (h : column bound target m = .ok c) :
    Columns bound [c] [(target, m)] :=
  .cons h .nil

theorem Columns.append {cs ds : List Column} {rs qs : List (Expr S × Member S)} (h : Columns bound cs rs)
    (h' : Columns bound ds qs) : Columns bound (cs ++ ds) (rs ++ qs) :=
  List.rel_append h h'

theorem columns_scalar {s : Scalar} (h : scalar bound e = .ok s) : Columns bound s.columns e.printed := by
  rcases scalar_eq_ok h with ⟨v, rfl, rfl⟩ | ⟨target, m, c, rfl, hc, rfl⟩
  · exact .nil
  · exact .single hc

theorem columns_textScalar (mode : CaseMode) (c : Column) : (textScalar mode c).columns = [c] := by
  cases mode <;> rfl

/-- What is rendered writes the columns of the properties that are said to be written. -/
theorem Rendered.columns {c : Condition} (h : Rendered bound e c) : Columns bound c.columns e.printed := by
  induction h with
  | truth => exact .nil
  | flag _ hc => exact .single hc
  | compare _ ha hb | unequal ha hb => exact (columns_scalar ha).append (columns_scalar hb)
  | @like m mode _ _ target p c needle hm hc =>
    have hprinted : (Expr.call m (.member target p) [.constant (.string needle)]).printed = [(target, p)] := by
      cases m with
      | contains | startsWith | endsWith => rfl
      | textEquals | isDefault | overlaps | setEquals => cases hm
    rw [Condition.columns, columns_textScalar, hprinted]
    exact .single hc
  | textEquals s hc =>
    rw [Condition.columns, columns_textScalar]
    exact .single hc
  | isDefault _ hc => exact (Columns.single hc).append (.single hc)
  | overlapsNone _ hv =>
    rw [Expr.printed, hv]
    exact .nil
  | overlaps _ hv hc =>
    rw [Expr.printed, if_neg (by rwa [List.isEmpty_iff])]
    exact .single hc
  | and _ _ ihl ihr | or _ _ ihl ihr => exact ihl.append ihr
  | not _ ih => exact ih

/-! ### Names and ways -/

theorem root_of_path {names : List String} (h : path bound e = .ok names) : e.root? = some bound := by
  induction e using Expr.induct generalizing names with
  | parameter p =>
    rw [path] at h
    split at h
    · rename_i hp
      rw [hp, Expr.root?]
    · cases h
  | project target p ih =>
    obtain ⟨before, hbefore, -⟩ := bind_eq_ok_iff.mp h
    rw [Expr.root?, ih hbefore]
  | constant | member | compare | call | and | or | not | test => cases h

theorem Columns.eq_map {cs : List Column} {rs : List (Expr S × Member S)} (h : Columns bound cs rs) :
    cs = rs.map fun r => columnOf r.1 r.2 := by
  induction h with
  | nil => rfl
  | cons hc _ ih => rw [List.map_cons, ← ih, column_eq_columnOf hc]

theorem Columns.root {cs : List Column} {rs : List (Expr S × Member S)} (h : Columns bound cs rs) :
    ∀ r ∈ rs, r.1.root? = some bound := by
  induction h with
  | nil => exact fun _ hr => absurd hr List.not_mem_nil
  | cons hc _ ih =>
    obtain ⟨names, hnames, -⟩ := bind_eq_ok_iff.mp hc
    exact List.forall_mem_cons.mpr ⟨root_of_path hnames, ih⟩

end Sql

end EntityQuery

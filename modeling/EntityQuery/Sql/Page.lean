import EntityQuery.Request.Plan
import EntityQuery.Sql.Syntax

/-!
# Rendering pages

A page is rendered to `LIMIT` and `OFFSET`. Two of the dialects know no offset without a limit, so there
a limit that is never reached stands for none. Sizes are bound as signed integers, which is enough for
every table.
-/

namespace EntityQuery.Sql

/-- The largest integer that can be bound. -/
def maxBound : Nat := Nat.pow 2 63 - 1

/-- A size as a bound value. -/
def boundSize (n : Nat) : Value := .int (Int64.ofNat (min n maxBound))

/-- A limit that is never reached, in the dialects that need one before an offset. -/
def unlimited : Dialect → List Token
  | .postgres => []
  | .mysql => [.text "LIMIT 18446744073709551615"]
  | .sqlite => [.text "LIMIT -1"]

/-- The tokens of a limit, if there is one or an offset needs one. -/
def limitTokens (d : Dialect) (p : Pagination) : List Token :=
  match p.take with
  | some n => [.text "LIMIT ", .placeholder (boundSize n)]
  | none => if p.skip = 0 then [] else unlimited d

/-- The tokens of an offset, if rows are skipped. -/
def offsetTokens (p : Pagination) : List Token :=
  if p.skip = 0 then [] else [.text "OFFSET ", .placeholder (boundSize p.skip)]

/-- The tokens of a page. -/
def pageTokens (d : Dialect) (p : Pagination) : List Token :=
  let limit := limitTokens d p
  let offset := offsetTokens p
  if limit.isEmpty || offset.isEmpty then limit ++ offset else limit ++ .text " " :: offset

/-- The clause of a page, after a statement with `bound` parameters. -/
def renderPage (d : Dialect) (p : Pagination) (bound : Nat) : Fragment :=
  .ofTokens d bound (pageTokens d p)

end EntityQuery.Sql

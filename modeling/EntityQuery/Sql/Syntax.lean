import EntityQuery.Value.Basic

/-!
# SQL conditions

The part of SQL that conditions on rows are rendered to. Values never stand in the text; they are bound
to placeholders, which are numbered in the order in which they are written. Text is written as a list of
tokens, which is the same for all dialects; a dialect says how identifiers are quoted and how
placeholders are spelled.
-/

namespace EntityQuery.Sql

/-! ### Dialects -/

/-- The databases that SQL is written for. -/
inductive Dialect where
  | postgres
  | mysql
  | sqlite
  deriving DecidableEq, Repr

namespace Dialect

/-- The character around identifiers. -/
def quoteMark : Dialect → Char
  | mysql => '\x60'
  | postgres | sqlite => '"'

/-- An identifier between quotes. A quote inside of it is doubled. -/
def quoteChars (d : Dialect) (name : List Char) : List Char :=
  d.quoteMark :: name.flatMap (fun c => if c = d.quoteMark then [c, c] else [c]) ++ [d.quoteMark]

/-- A name between the dialect's quotation marks, those inside it doubled. -/
def quoteIdentifier (d : Dialect) (name : String) : String := .ofList (d.quoteChars name.toList)

/-- The placeholder of the parameter with this number, counted from one. -/
def placeholder (d : Dialect) (index : Nat) : String :=
  match d with
  | postgres => s!"${index}"
  | mysql | sqlite => "?"

/-- Whether sort keys can say where nulls go. -/
def hasNullsOrder : Dialect → Bool
  | mysql => false
  | postgres | sqlite => true

end Dialect

/-! ### Conditions -/

/-- A column, qualified by the names on the way to it. -/
structure Column where
  path : List String
  name : String
  deriving DecidableEq

/-- A single value. -/
inductive Scalar where
  | column (c : Column)
  /-- The text of a column in lower case. -/
  | lower (c : Column)
  | bound (v : Value)

/-- How scalars are compared. -/
inductive Comparison where
  | eq
  | lt
  | lte
  | gt
  | gte
  deriving DecidableEq, Repr

/-- A condition on a row. -/
inductive Condition where
  | literal (b : Bool)
  | compare (op : Comparison) (left right : Scalar)
  /-- The text matches a pattern. -/
  | like (s : Scalar) (pattern : String)
  /-- The column is null or has the given value. -/
  | nullOr (c : Column) (v : Value)
  /-- The scalar is one of several values, at least one. -/
  | isIn (s : Scalar) (vs : List Value)
  | and (left right : Condition)
  | or (left right : Condition)
  /-- The condition is false or unknown. -/
  | notTrue (inner : Condition)

/-! ### Tokens -/

/-- A piece of SQL text. -/
inductive Token where
  /-- Text that is the same in every dialect. -/
  | text (s : String)
  | identifier (name : String)
  /-- A placeholder and the value bound to it. -/
  | placeholder (v : Value)

/-- A column is written behind the names of what it belongs to. -/
def Column.tokens (c : Column) : List Token :=
  c.path.flatMap (fun s => [.identifier s, .text "."]) ++ [.identifier c.name]

/-- How a scalar is written. -/
def Scalar.tokens : Scalar → List Token
  | column c => c.tokens
  | lower c => .text "LOWER(" :: c.tokens ++ [.text ")"]
  | bound v => [.placeholder v]

/-- How a comparison is written, with the blanks around it. -/
def Comparison.symbol : Comparison → String
  | eq => " = "
  | lt => " < "
  | lte => " <= "
  | gt => " > "
  | gte => " >= "

/-- Placeholders with commas between them. -/
def placeholders : List Value → List Token
  | [] => []
  | [v] => [.placeholder v]
  | v :: rest => .placeholder v :: .text ", " :: placeholders rest

/-- The character that makes the next character of a pattern literal. -/
def likeEscape : Char := '!'

/-- How a condition is written. -/
def Condition.tokens : Condition → List Token
  | literal b => [.text (if b then "TRUE" else "FALSE")]
  | compare op l r => l.tokens ++ .text op.symbol :: r.tokens
  | like s pattern =>
    s.tokens ++ [.text " LIKE ", .placeholder (.string pattern),
      .text (" ESCAPE '" ++ likeEscape.toString ++ "'")]
  | nullOr c v =>
    .text "(" :: c.tokens ++ .text " IS NULL OR " :: c.tokens ++
      [.text " = ", .placeholder v, .text ")"]
  | isIn s vs => s.tokens ++ .text " IN (" :: placeholders vs ++ [.text ")"]
  | and l r => .text "(" :: l.tokens ++ .text " AND " :: r.tokens ++ [.text ")"]
  | or l r => .text "(" :: l.tokens ++ .text " OR " :: r.tokens ++ [.text ")"]
  | notTrue c => .text "NOT COALESCE(" :: c.tokens ++ [.text ", FALSE)"]

/-! ### Text -/

/-- SQL text with the values bound to its placeholders, in their order. -/
structure Fragment where
  sql : String
  params : List Value

/-- The text of tokens whose placeholders are numbered after `bound`. -/
def writeTokens (d : Dialect) (bound : Nat) : List Token → String
  | [] => ""
  | .text s :: rest => s ++ writeTokens d bound rest
  | .identifier name :: rest => d.quoteIdentifier name ++ writeTokens d bound rest
  | .placeholder _ :: rest => d.placeholder (bound + 1) ++ writeTokens d (bound + 1) rest

/-- The values bound by tokens. -/
def boundValues (ts : List Token) : List Value :=
  ts.filterMap fun
    | .placeholder v => some v
    | _ => none

/-- A fragment whose placeholders are numbered after those of the `bound` parameters before it. -/
def Fragment.ofTokens (d : Dialect) (bound : Nat) (ts : List Token) : Fragment :=
  ⟨writeTokens d bound ts, boundValues ts⟩

@[simp] theorem boundValues_nil : boundValues [] = [] := rfl

@[simp] theorem boundValues_append (ts us : List Token) :
    boundValues (ts ++ us) = boundValues ts ++ boundValues us := by
  simp [boundValues]

theorem writeTokens_append (d : Dialect) (bound : Nat) (ts us : List Token) :
    writeTokens d bound (ts ++ us) =
      writeTokens d bound ts ++ writeTokens d (bound + (boundValues ts).length) us := by
  induction ts generalizing bound with
  | nil => simp [writeTokens]
  | cons t rest ih =>
    cases t with
    | text s => simp [writeTokens, ih, boundValues, String.append_assoc]
    | identifier name => simp [writeTokens, ih, boundValues, String.append_assoc]
    | placeholder v =>
      simp [writeTokens, ih, boundValues, String.append_assoc, Nat.add_assoc, Nat.add_comm]

end EntityQuery.Sql

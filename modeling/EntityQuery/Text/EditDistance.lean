import EntityQuery.Text.Lowercase

/-!
# Edit distance

The distance of two texts is the fewest insertions, deletions and substitutions of one character that
turn one into the other. It is computed row by row: the row of a text `s` holds its distance to each
beginning of the other text, and a further character of `s` turns a row into the next one. The names
proposed in place of a misspelled one are the closest by this distance.
-/

namespace EntityQuery.Text

/-- The cells of the next row after its first. `left` is the cell just computed, and the old row
starts with the cell above `left`. -/
def editCells (c : Char) (left : Nat) : List Char → List Nat → List Nat
  | d :: ds, diagonal :: above :: row =>
    let cell := if c = d then diagonal else 1 + min (min diagonal left) above
    cell :: editCells c cell ds (above :: row)
  | _, _ => []

/-- The row of `s ++ [c]` from the row of `s`, both towards the beginnings of `target`. -/
def editRow (target : List Char) (row : List Nat) (c : Char) : List Nat :=
  let first := row.headD 0 + 1
  first :: editCells c first target row

/-- The edit distance of two texts. -/
def editDistance (s target : List Char) : Nat :=
  (s.foldl (editRow target) (List.range (target.length + 1))).getLastD 0

/-- How many names are proposed at most. -/
def maxSuggestions : Nat := 3

/-- How far a name may be from the requested one to be proposed. -/
def maxSuggestionDistance : Nat := 2

/-- By distance, then by name. -/
def closerName (a b : Nat × String) : Bool :=
  a.1 < b.1 || (a.1 == b.1 && decide (a.2 ≤ b.2))

/-- The known names that are close to `name` but for case, the closest first. -/
def closestNames (name : String) (known : List String) : List String :=
  let scored := known.map fun k => (editDistance (lowerChars name.toList) (lowerChars k.toList), k)
  let close := scored.filter fun p => p.1 ≤ maxSuggestionDistance
  ((close.mergeSort closerName).take maxSuggestions).map Prod.snd

end EntityQuery.Text

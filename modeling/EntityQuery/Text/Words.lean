import EntityQuery.Text.Cluster
import EntityQuery.Text.Lowercase
import EntityQuery.Text.Uppercase

/-!
# Words of a name

A name in any of the usual conventions is split into words: at underscores, hyphens and blanks, which
belong to no word, where lower case turns into upper case, where letters turn into digits or digits into
letters, and before the last capital of a row of capitals that lower case follows. A cluster of characters
counts as one.
-/

namespace EntityQuery.Text

/-- What matters of a cluster when a name is split. -/
inductive LetterKind where
  | upper
  | lower
  | digit
  | other
  deriving DecidableEq, Repr

/-- The kind of a cluster. Letters without case are of no kind that matters. -/
def kindOf (cluster : List Char) : LetterKind :=
  let up := upperChars cluster
  let low := lowerChars cluster
  if cluster.all Char.isDigit then .digit
  else if up = low then .other
  else if cluster = up then .upper
  else if cluster = low then .lower
  else .other

/-! ### Splitting -/

/-- Whether a cluster stands between words and belongs to none. A separator with a mark on it does not. -/
def isSeparator (cluster : List Char) : Bool := cluster ∈ [['_'], ['-'], [' ']]

/-- Whether a word starts at a cluster, given the kinds of the one before it, its own and the next one. -/
def startsWord : LetterKind → LetterKind → Option LetterKind → Bool
  | .lower, .upper, _ | .upper, .digit, _ | .digit, .upper, _ | .digit, .lower, _
  | .lower, .digit, _ | .upper, .upper, some .lower => true
  | _, _, _ => false

/-- The rest of the word that is being read and the words after it, where a cluster of the kind
`previous` comes before the text. -/
def segments (previous : LetterKind) : List (List Char) → List (List Char)
  | [] => [[]]
  | c :: rest =>
    let kind := kindOf c
    let after := segments kind rest
    if isSeparator c then [] :: after
    else
      let joined := (c ++ after.headD []) :: after.tail
      if startsWord previous kind (rest.head?.map kindOf) then [] :: joined else joined

/-- The words of a name. -/
def words (s : List Char) : List (List Char) := (segments .other (clusters s)).filter (· ≠ [])

/-! ### Joining -/

/-- The word with a capital first character and lower case after it. Marks on that character count as
what comes after it. -/
def capitalize : List Char → List Char
  | [] => []
  | c :: rest => upperChar c ++ lowerChars rest

end EntityQuery.Text

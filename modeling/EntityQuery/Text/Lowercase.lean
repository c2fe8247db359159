import EntityQuery.Text.CaseTable

/-!
# Lower case

Comparison without regard to case folds both sides to lower case by the full Unicode mapping. Every
character is mapped by itself but one: a capital sigma becomes `ς` at the end of a word and `σ`
elsewhere, and the word is found by looking through case-ignorable characters.
-/

namespace EntityQuery.Text

/-- Whether a character is cased in the sense of Unicode. -/
def isCased (c : Char) : Bool := inRanges casedRanges c

/-- Whether a character is passed over in the search for cased ones. -/
def isCaseIgnorable (c : Char) : Bool := inRanges caseIgnorableRanges c

/-- The lower case of one character, which is two characters for `İ` alone. -/
def lowerChar (c : Char) : List Char :=
  if c.toNat < 0x80 then [if c.isUpper then Char.ofNat (c.toNat + 32) else c]
  else if c = 'İ' then ['i', '\u0307']
  else [(lowerRuns.findSome? fun r => r.apply? c).getD c]

/-- Whether the first character that is not case-ignorable is cased. -/
def startsCased (s : List Char) : Bool :=
  match s.dropWhile isCaseIgnorable with
  | [] => false
  | c :: _ => isCased c

/-- The lower case of a text that follows the text `before`, which is given last character first. -/
def lowerAfter (before : List Char) : List Char → List Char
  | [] => []
  | c :: rest =>
    if c = 'Σ' then
      (if startsCased before && !startsCased rest then 'ς' else 'σ') :: lowerAfter (c :: before) rest
    else lowerChar c ++ lowerAfter (c :: before) rest

/-- The lower case of a text. -/
def lowerChars (s : List Char) : List Char := lowerAfter [] s

/-- The lower case of a string. -/
def lower (s : String) : String := .ofList (lowerChars s.toList)

end EntityQuery.Text

import EntityQuery.Text.CaseTable

/-!
# Upper case

The full Unicode mapping, which may turn one character into several.
-/

namespace EntityQuery.Text

/-- The upper case of one character. -/
def upperChar (c : Char) : List Char :=
  if c.toNat < 0x80 then [if c.isLower then Char.ofNat (c.toNat - 32) else c]
  else
    match upperSequences.lookup c.toNat with
    | some cs => cs.map Char.ofNat
    | none => [(upperRuns.findSome? fun r => r.apply? c).getD c]

/-- The upper case of a text. -/
def upperChars (s : List Char) : List Char := s.flatMap upperChar

end EntityQuery.Text

import EntityQuery.Text.Ranges

/-!
# Blank characters

Literals are read without the blanks around them. A blank is a character of Unicode's `White_Space`.
-/

namespace EntityQuery.Text

/-- Unicode's `White_Space`. -/
def blankRanges : List (Nat × Nat) := [
  (0x9, 0xD), (0x20, 0x20), (0x85, 0x85), (0xA0, 0xA0), (0x1680, 0x1680), (0x2000, 0x200A),
  (0x2028, 0x2029), (0x202F, 0x202F), (0x205F, 0x205F), (0x3000, 0x3000)]

/-- Whether a character is white space. -/
def isBlank (c : Char) : Bool := inRanges blankRanges c

/-- Removes the blanks at the start of a text. -/
def trimStart (s : List Char) : List Char := s.dropWhile isBlank

/-- Removes the blanks at both ends of a text. -/
def trim (s : List Char) : List Char := (trimStart (trimStart s).reverse).reverse

/-- A text that starts with no blank is trimmed at its end only. -/
theorem trimStart_cons_of_not_blank {c : Char} {s : List Char} (h : isBlank c = false) :
    trimStart (c :: s) = c :: s := by
  simp [trimStart, h]

end EntityQuery.Text

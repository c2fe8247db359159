import EntityQuery.Text.ClusterTable
import EntityQuery.Text.PrintableTable

/-!
# Quoted text

How a string is shown to people: between double quotes, with a backslash before a quote and before a
backslash, short names for the common control characters, and the code point of every character that
would not show by itself.
-/

namespace EntityQuery.Text

/-- The half-width sound marks of Japanese, which have a width of their own although they extend the
character before them. -/
def isSoundMark (c : Char) : Bool := c == '\uff9e' || c == '\uff9f'

/-- Whether a character shows by itself, neither invisible nor drawn onto its neighbour. -/
def isPrintable (c : Char) : Bool :=
  if c.toNat < 0x80 then 0x20 ≤ c.toNat && c.toNat < 0x7F
  else isSoundMark c || (!inRanges graphemeExtendRanges c && !inRanges unprintableRanges c)

/-- A character as it stands inside a quoted text. -/
def quoteChar (c : Char) : List Char :=
  if c = '\x00' then ['\\', '0']
  else if c = '\t' then ['\\', 't']
  else if c = '\r' then ['\\', 'r']
  else if c = '\n' then ['\\', 'n']
  else if c = '\\' ∨ c = '"' then ['\\', c]
  else if isPrintable c then [c]
  else ['\\', 'u', '\x7b'] ++ Nat.toDigits 16 c.toNat ++ ['\x7d']

/-- A string between double quotes. -/
def quoted (s : String) : String :=
  .ofList ('"' :: s.toList.flatMap quoteChar ++ ['"'])

end EntityQuery.Text

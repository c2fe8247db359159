import EntityQuery.Text.Hexadecimal

/-!
# Universally unique identifiers

An identifier is a number of 128 bits. It is written as 32 hexadecimal digits in groups of 8, 4, 4, 4
and 12.
-/

namespace EntityQuery

/-- An identifier of 128 bits. -/
structure Uuid where
  bits : BitVec 128
  deriving DecidableEq

namespace Uuid

open Text (hexNumber? hexDigits)

/-- The identifier whose bits are all zero. -/
def nil : Uuid := ⟨0⟩

/-- Identifiers are ordered as numbers. -/
instance : Ord Uuid := ⟨fun a b => compare a.bits.toNat b.bits.toNat⟩

/-- How many digits each group has. -/
def groups : List Nat := [8, 4, 4, 4, 12]

/-- Cuts a text into groups of the given sizes, with hyphens between them. -/
def hyphenate : List Nat → List Char → List Char
  | [], _ => []
  | [n], s => s.take n
  | n :: ns, s => s.take n ++ '-' :: hyphenate ns (s.drop n)

/-- The digits of an identifier in groups with hyphens between them. -/
def toChars (u : Uuid) : List Char := hyphenate groups (hexDigits 32 u.bits.toNat)

/-- An identifier as it is shown and transmitted. -/
def toText (u : Uuid) : String := .ofList u.toChars

/-- Reads 32 hexadecimal digits. -/
def ofSimple? (s : List Char) : Option Uuid :=
  if s.length = 32 then (hexNumber? s).map fun n => ⟨BitVec.ofNat 128 n⟩ else none

/-- Removes the hyphens between groups of the given sizes, if they stand exactly there. -/
def unhyphenate? : List Nat → List Char → Option (List Char)
  | [], _ => none
  | [n], s => if s.length = n then some s else none
  | n :: ns, s =>
    match s.drop n with
    | '-' :: rest => (unhyphenate? ns rest).map (s.take n ++ ·)
    | _ => none

/-- Reads five groups of digits with hyphens between them. -/
def ofHyphenated? (s : List Char) : Option Uuid := unhyphenate? groups s >>= ofSimple?

/-- The name space of identifiers written as names. -/
def urnStart : List Char := "urn:uuid:".toList

/-- Reads an identifier: digits alone, in groups, in groups between braces or as a name. -/
def ofChars? (s : List Char) : Option Uuid :=
  match s with
  | '\x7b' :: rest =>
    if rest.getLast? = some '\x7d' then ofHyphenated? rest.dropLast else none
  | _ =>
    if s.length = 32 then ofSimple? s
    else if (s.take urnStart.length).map Char.toLower = urnStart then
      ofHyphenated? (s.drop urnStart.length)
    else ofHyphenated? s

end Uuid

end EntityQuery

import EntityQuery.Toml.Basic
import EntityQuery.Toml.Scalar

/-!
# Reading TOML

A document is read statement by statement: a header opens the table that the entries after it belong to.
Arrays may run over several lines and hold comments, tables in one line may not. The fuel of the mutual
readers is the length of the text, of which every step takes a character.
-/

namespace EntityQuery.Toml

/-! ### Blanks and comments -/

/-- The text after the blanks at its start, which do not end a line. -/
def skipSpaces (s : List Char) : List Char := s.dropWhile isSpace

/-- The text after a comment, if there is one. A comment goes up to the end of its line. -/
def skipComment (s : List Char) : List Char :=
  match s with
  | '#' :: rest => rest.dropWhile isPlain
  | _ => s

/-- The text after the end of a line, which may also be the end of the document. -/
def endLine? (s : List Char) : Option (List Char) :=
  match s with
  | [] => some []
  | '\n' :: rest => some rest
  | '\r' :: '\n' :: rest => some rest
  | _ => none

/-- The text after what may follow a statement on its line. -/
def finishLine? (s : List Char) : Option (List Char) := endLine? (skipComment (skipSpaces s))

/-- The text after blanks, comments and line breaks. Comments end with their lines. -/
def skipLines : Nat → List Char → List Char
  | 0, s => s
  | fuel + 1, s =>
    match skipSpaces s with
    | [] => []
    | s =>
      match endLine? (skipComment s) with
      | some rest => skipLines fuel rest
      | none => s

/-! ### Keys -/

/-- Whether a character can stand in a key without quotes. -/
def isKeyChar (c : Char) : Bool := c.isAlphanum || c == '_' || c == '-'

/-- Reads one key, in quotes or without. -/
def readSimpleKey? (s : List Char) : Option (String × List Char) :=
  match s with
  | '"' :: rest => (readBasic? rest).map fun (k, rest) => (.ofList k, rest)
  | '\x27' :: rest => (readLiteral? rest).map fun (k, rest) => (.ofList k, rest)
  | _ =>
    let key := s.takeWhile isKeyChar
    if key = [] then none else some (.ofList key, s.dropWhile isKeyChar)

/-- How many keys a dotted key and how many levels a value must stay below. -/
def depthLimit : Nat := 80

/-- Reads a dotted key of fewer than `room` keys, as the keys before the last one and the last one. -/
def readKey? : Nat → List Char → Option ((List String × String) × List Char)
  | 0, _ => none
  | room + 1, s => do
    let (key, rest) ← readSimpleKey? (skipSpaces s)
    match skipSpaces rest with
    | '.' :: rest => do
      let ((path, last), rest) ← readKey? room rest
      some ((key :: path, last), rest)
    | rest => some (([], key), rest)

/-! ### Values -/

mutual

/-- Reads a value inside of `depth` arrays and tables. -/
def readValue? : Nat → Nat → List Char → Option (Json × List Char)
  | 0, _, _ => none
  | fuel + 1, depth, s =>
    match s with
    | '[' :: rest =>
      if depth + 1 < depthLimit then
        (readItems? fuel (depth + 1) rest).map fun (items, rest) => (.array items, rest)
      else none
    | '\x7b' :: rest =>
      if depth + 1 < depthLimit then
        match skipSpaces rest with
        | '\x7d' :: rest => some (.object [], rest)
        | rest => (readPairs? fuel (depth + 1) [] rest).map fun (entries, rest) =>
          (.object (entriesToJson entries), rest)
      else none
    | _ =>
      match readString? s with
      | some (t, rest) => some (.ofString (.ofList t), rest)
      | none => readWord? s

/-- Reads the items of an array up to its closing bracket. A comma may follow the last one. -/
def readItems? : Nat → Nat → List Char → Option (List Json × List Char)
  | 0, _, _ => none
  | fuel + 1, depth, s =>
    match skipLines s.length s with
    | ']' :: rest => some ([], rest)
    | s => do
      let (j, rest) ← readValue? fuel depth s
      match skipLines rest.length rest with
      | ']' :: rest => some ([j], rest)
      | ',' :: rest => do
        let (items, rest) ← readItems? fuel depth rest
        some (j :: items, rest)
      | _ => none

/-- Reads the entries of a table in one line, at least one, up to its closing brace. -/
def readPairs? : Nat → Nat → Entries → List Char → Option (Entries × List Char)
  | 0, _, _, _ => none
  | fuel + 1, depth, entries, s => do
    let ((path, key), rest) ← readKey? (depthLimit - 1) s
    match rest with
    | '=' :: rest => do
      let (j, rest) ← readValue? fuel depth (skipSpaces rest)
      let entries ← addValue path key j entries
      match skipSpaces rest with
      | '\x7d' :: rest => some (entries, rest)
      | ',' :: rest => readPairs? fuel depth entries rest
      | _ => none
    | _ => none

end

/-! ### Documents -/

/-- The tables that are read so far, and where the next entries belong. -/
structure Progress where
  root : Entries := []
  header : List String := []

/-- Reads a header after its first bracket. -/
def readHeader? (p : Progress) (s : List Char) : Option (Progress × List Char) :=
  match s with
  | '[' :: rest => do
    let ((path, key), rest) ← readKey? (depthLimit - 1) rest
    match rest with
    | ']' :: ']' :: rest => do
      let root ← openItem path key p.root
      some (⟨root, path ++ [key]⟩, ← finishLine? rest)
    | _ => none
  | _ => do
    let ((path, key), rest) ← readKey? (depthLimit - 1) s
    match rest with
    | ']' :: rest => do
      let root ← openTable path key p.root
      some (⟨root, path ++ [key]⟩, ← finishLine? rest)
    | _ => none

/-- Reads an entry. It belongs to the table of the last header. -/
def readEntry? (p : Progress) (s : List Char) : Option (Progress × List Char) := do
  let ((path, key), rest) ← readKey? (depthLimit - 1) s
  match rest with
  | '=' :: rest => do
    let (j, rest) ← readValue? (rest.length + 1) 0 (skipSpaces rest)
    let root ← update .implied (fun _ => addValue path key j) p.header .header p.root
    some ({ p with root }, ← finishLine? rest)
  | _ => none

/-- Reads statements up to the end of the text. -/
def readStatements? : Nat → Progress → List Char → Option Progress
  | 0, _, _ => none
  | fuel + 1, p, s =>
    match skipLines s.length s with
    | [] => some p
    | '[' :: rest => do
      let (p, rest) ← readHeader? p rest
      readStatements? fuel p rest
    | s => do
      let (p, rest) ← readEntry? p s
      readStatements? fuel p rest

/-- Reads a text as one document. A mark of the byte order at the start is passed over. -/
def read? (s : List Char) : Option Json :=
  let s := match s with
    | '\ufeff' :: rest => rest
    | _ => s
  (readStatements? (s.length + 1) {} s).map fun p => .object (entriesToJson p.root)

end EntityQuery.Toml

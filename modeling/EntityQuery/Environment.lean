/-!
# Environments

The variables by which the process that runs the library is set up.
-/

namespace EntityQuery

/-- Variables with their values. Of two values for one name the first counts. -/
structure Environment where
  settings : List (String × String) := []

namespace Environment

/-- The value of a variable. -/
def get? (env : Environment) (name : String) : Option String := env.settings.lookup name

/-- The environment with a variable set. -/
def set (env : Environment) (name value : String) : Environment := ⟨(name, value) :: env.settings⟩

/-! ### References -/

/-- Whether a character can stand in the name of a variable that is referred to. -/
def isNameChar (c : Char) : Bool := c.isAlphanum || c == '_'

/-- The name that a text refers to at its start, after a dollar sign and an opening brace, and the text
after the closing brace. A name does not start with a digit. -/
def reference? (s : List Char) : Option (String × List Char) :=
  let name := s.takeWhile isNameChar
  match name, s.dropWhile isNameChar with
  | c :: _, '\x7d' :: rest => if c.isDigit then none else some (.ofList name, rest)
  | _, _ => none

theorem length_lt_of_reference? {s rest : List Char} {name : String}
    (h : reference? s = some (name, rest)) : rest.length < s.length := by
  dsimp only [reference?] at h
  split at h
  · rename_i heq
    split at h
    · cases h
    · obtain ⟨_, rfl⟩ := Prod.mk.inj (Option.some.inj h)
      have := (List.dropWhile_suffix (p := isNameChar) (l := s)).length_le
      rw [heq] at this
      simp only [List.length_cons] at this
      omega
  · cases h

/-- The text with each reference to a variable replaced by the variable's value. What takes the place of
a reference is not looked at again, and a reference to a variable that is not set stays. -/
def expand (env : Environment) : List Char → List Char
  | [] => []
  | '$' :: '\x7b' :: rest =>
    match _h : reference? rest with
    | some (name, tail) =>
      match env.get? name with
      | some value => value.toList ++ expand env tail
      | none => '$' :: expand env ('\x7b' :: rest)
    | none => '$' :: expand env ('\x7b' :: rest)
  | c :: rest => c :: expand env rest
termination_by s => s.length
decreasing_by
  all_goals simp only [List.length_cons]
  · have := length_lt_of_reference? _h
    omega
  all_goals omega

@[simp] theorem expand_nil (env : Environment) : env.expand [] = [] := by simp [expand]

end Environment

end EntityQuery

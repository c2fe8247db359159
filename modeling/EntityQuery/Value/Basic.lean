import EntityQuery.Decimal.Basic
import EntityQuery.Text.Quoted
import EntityQuery.Timestamp.Basic
import EntityQuery.Uuid
import EntityQuery.Value.Family

/-!
# Values

A value is what a property of a row holds and what a literal of a request is read as. Two values are
comparable if they are of one family, integers and decimals counting as one, and neither is null or a
list. Predicates use only this partial order, so a null equals nothing, not even another null. Apart
from it there is a total order on all values, by kind first, which makes sorting well defined.
-/

namespace EntityQuery

/-- What a property holds, or a literal denotes. -/
inductive Value where
  | null
  | bool (b : Bool)
  | int (i : Int64)
  | decimal (d : Decimal)
  | string (s : String)
  | dateTime (t : Timestamp)
  | uuid (u : Uuid)
  /-- The values of a collection. -/
  | list (items : List Value)

namespace Value

instance : Inhabited Value := ⟨.null⟩

/-! ### Kinds -/

/-- Whether a value is null. -/
def isNull : Value → Bool
  | null => true
  | _ => false

/-- The text of a string. -/
def string? : Value → Option String
  | string s => some s
  | _ => none

/-- The family of a value. Null and lists have none. -/
def family? : Value → Option Family
  | null | list _ => none
  | bool _ => some .boolean
  | int _ => some .integer
  | decimal _ => some .decimal
  | string _ => some .string
  | dateTime _ => some .dateTime
  | uuid _ => some .uuid

/-- Whether a value is the one its family starts from; null and the empty list count as such. -/
def isDefault : Value → Bool
  | null => true
  | bool b => !b
  | int i => i == 0
  | decimal d => d.isZero
  | string s => s.isEmpty
  | dateTime t => t == Timestamp.epoch
  | uuid u => u == Uuid.nil
  | list items => items.isEmpty

/-! ### The partial order of comparable values -/

/-- The natural order of two comparable values. -/
def compare? : Value → Value → Option Ordering
  | bool a, bool b => some (compare a b)
  | int a, int b => some (compare a.toInt b.toInt)
  | int a, decimal b => some ((Decimal.ofInt64 a).compare b)
  | decimal a, int b => some (a.compare (Decimal.ofInt64 b))
  | decimal a, decimal b => some (a.compare b)
  | string a, string b => some (compare a b)
  | dateTime a, dateTime b => some (compare a b)
  | uuid a, uuid b => some (compare a b)
  | _, _ => none

/-- Equality as predicates use it. -/
def looseEq (a b : Value) : Bool := a.compare? b == some .eq

/-! ### Values as sets -/

/-- The members of a value: the items of a list, none of null, and any other value itself. -/
def members : Value → List Value
  | null => []
  | list items => items
  | v => [v]

/-- Whether some member of one value equals some member of the other. -/
def overlaps (a b : Value) : Bool := a.members.any fun x => b.members.any fun y => x.looseEq y

/-- Whether every member of `b` equals some member of `a`. -/
def covers (a b : Value) : Bool := b.members.all fun y => a.members.any fun x => x.looseEq y

/-- Whether two values have the same members. -/
def setEquals (a b : Value) : Bool := a.covers b && b.covers a

/-! ### The total order -/

/-- The place of a value's kind in the total order. -/
def rank : Value → Nat
  | null => 0
  | bool _ => 1
  | int _ => 2
  | decimal _ => 3
  | string _ => 4
  | dateTime _ => 5
  | uuid _ => 6
  | list _ => 7

mutual

/-- Values are ordered by kind, then by what they hold. -/
def compareTotal : Value → Value → Ordering
  | bool a, bool b => compare a b
  | int a, int b => compare a.toInt b.toInt
  | decimal a, decimal b => a.compare b
  | string a, string b => compare a b
  | dateTime a, dateTime b => compare a b
  | uuid a, uuid b => compare a b
  | list a, list b => compareItems a b
  | a, b => compare a.rank b.rank

/-- Lists are ordered by their first difference, and a list comes after its beginnings. -/
def compareItems : List Value → List Value → Ordering
  | [], [] => .eq
  | [], _ :: _ => .lt
  | _ :: _, [] => .gt
  | a :: as, b :: bs => (compareTotal a b).then (compareItems as bs)

end

/-- Values are ordered by kind first. -/
instance : Ord Value := ⟨compareTotal⟩

/-- Two values are the same if nothing but the scale of a decimal, or the sign of a decimal zero, tells
them apart. -/
instance : BEq Value := ⟨fun a b => compareTotal a b == .eq⟩

/-! ### Text -/

mutual

/-- A value as it is shown. -/
def toText : Value → String
  | null => "null"
  | bool b => if b then "true" else "false"
  | int i => toString i.toInt
  | decimal d => d.toText
  | string s => Text.quoted s
  | dateTime t => t.toText
  | uuid u => u.toText
  | list items => "[" ++ ", ".intercalate (itemTexts items) ++ "]"

/-- The items of a list as they are shown. -/
def itemTexts : List Value → List String
  | [] => []
  | v :: rest => toText v :: itemTexts rest

end

@[simp] theorem members_null : members null = [] := rfl

@[simp] theorem members_list (items : List Value) : members (list items) = items := rfl

@[simp] theorem compare?_null_left (v : Value) : compare? null v = none := by cases v <;> rfl

@[simp] theorem compare?_null_right (v : Value) : compare? v null = none := by cases v <;> rfl

theorem looseEq_iff {a b : Value} : looseEq a b = true ↔ a.compare? b = some .eq := by
  simp [looseEq]

end Value

/-- The value that a family starts from. -/
def Family.defaultValue : Family → Value
  | string => .string ""
  | integer => .int 0
  | decimal => .decimal .zero
  | boolean => .bool false
  | dateTime => .dateTime .epoch
  | uuid => .uuid .nil

end EntityQuery

import EntityQuery.Predicate.Specification

/-!
# People and companies

A small schema, at which general statements are tried out: people, who have a name, perhaps an age, and an
employer, and companies, which have a name and may be listed.
-/

namespace EntityQuery.People

/-- The types of rows. -/
inductive Kind where
  | person
  | company
  deriving DecidableEq

/-- A company, which may be listed on an exchange. -/
structure Company where
  name : String
  listed : Bool

/-- A person with an employer, whose age may not be known. -/
structure Person where
  name : String
  age : Option Int64
  employer : Company

/-- The age, null if it is not known. -/
def Person.readAge (p : Person) : Value := (p.age.map Value.int).getD .null

/-- Whether the company is listed. -/
def Company.readListed (c : Company) : Value := .bool c.listed

/-- The name of a person. -/
def nameProperty : Property Person := ⟨"Name", ⟨.string, .scalar⟩, fun p => .string p.name⟩

/-- The age of a person, which is optional. -/
def ageProperty : Property Person := ⟨"Age", ⟨.integer, .optional⟩, Person.readAge⟩

/-- Whether a company is listed. -/
def listedProperty : Property Company := ⟨"Listed", ⟨.boolean, .scalar⟩, Company.readListed⟩

/-- The schema of people and companies. -/
def schema : Schema where
  Entity := Kind
  Row
    | .person => Person
    | .company => Company
  metadata
    | .person => { name := "Person", properties := [nameProperty, ageProperty], nodup := by decide }
    | .company => { name := "Company", properties := [listedProperty] }

/-- The entity of people. -/
def person : schema.Entity := Kind.person

/-- The entity of companies. -/
def company : schema.Entity := Kind.company

/-- A listed company. -/
def acme : Company := ⟨"Acme", true⟩

/-- A person whose age is not known. -/
def ada : schema.Row person := Person.mk "Ada" none acme

/-- A person of thirty years. -/
def bob : schema.Row person := Person.mk "Bob" (some 30) ⟨"Bakery", false⟩

/-- A person of forty years. -/
def cleo : schema.Row person := Person.mk "Cleo" (some 40) acme

/-- A person of seventeen years with a percent sign in the name. -/
def dan : schema.Row person := Person.mk "Dan 5%" (some 17) ⟨"Bakery", false⟩

/-- The parameter of conditions about people. -/
def x : Parameter schema := ⟨0, "x", person⟩

/-- The parameter of conditions about companies. -/
def y : Parameter schema := ⟨1, "y", company⟩

/-- The name of people. -/
def name : Member schema := .ofProperty person nameProperty

/-- The age of people. -/
def age : Member schema := .ofProperty person ageProperty

/-- Whether companies are listed. -/
def listed : Member schema := .ofProperty company listedProperty

/-- The way from people to their employers. -/
def employer : Projection schema := ⟨"Employer", person, company, Person.employer⟩

/-- The age of a person is at least eighteen. -/
def adult : Specification schema person :=
  .ofTree ⟨0, x, .compare .gte (.member (.parameter x) age) (.constant (.int 18)), rfl⟩

/-- The company is not listed. -/
def unlisted : Specification schema company :=
  .ofTree ⟨1, y, .not (.member (.parameter y) listed), rfl⟩

/-- The employer of a person is listed. -/
def employed : Specification schema person :=
  .ofTree ⟨2, x, .member (.project (.parameter x) employer) listed, rfl⟩

/-- The person is not known to be an adult, and has a name with a percent sign or an employer that is
listed. -/
def candidate : Tree schema person where
  id := 3
  parameter := x
  body := .and (.not (.compare .gte (.member (.parameter x) age) (.constant (.int 18))))
    (.or (.call (.contains .ignoreCase) (.member (.parameter x) name) [.constant (.string "%")])
      (.member (.project (.parameter x) employer) listed))
  entity_eq := rfl

/-- The person has a name, which is tested by a function, and an employer that is listed. -/
def insider : Tree schema person where
  id := 4
  parameter := x
  body := .and (.test ⟨"HasName", x, person, fun r => !r.name.isEmpty, rfl⟩)
    (.member (.project (.parameter x) employer) listed)
  entity_eq := rfl

/-- A person is asked whether it is listed, which only companies are. -/
def misplaced : Tree schema person where
  id := 6
  parameter := x
  body := .member (.parameter x) listed
  entity_eq := rfl

/-- A property whose name has the marks of every dialect in it. -/
def nickname : Member schema :=
  .ofProperty person ⟨"nick\"\x60' = $1 OR ?", ⟨.string, .scalar⟩, fun p => .string p.name⟩

/-- A projection whose label closes a quote. -/
def agency : Projection schema := ⟨"agency\"; \x60", person, company, Person.employer⟩

/-- The person has a nickname with a placeholder in it, and an agency that is listed. -/
def quoting : Tree schema person where
  id := 7
  parameter := x
  body := .and (.call (.contains .ordinal) (.member (.parameter x) nickname) [.constant (.string "$2")])
    (.member (.project (.parameter x) agency) listed)
  entity_eq := rfl

/-- The name of the person starts with the text. -/
def startingWith (start : String) : Tree schema person where
  id := 8
  parameter := x
  body := .call (.startsWith .ordinal) (.member (.parameter x) name) [.constant (.string start)]
  entity_eq := rfl

/-- The name of the person is compared to a number. -/
def numbered (op : CompareOp) : Tree schema person where
  id := 9
  parameter := x
  body := .compare op (.member (.parameter x) name) (.constant (.int 7))
  entity_eq := rfl

end EntityQuery.People

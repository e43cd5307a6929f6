import SearchQuery.Manual.Pages
import SearchQuery.Text.LetterCase

/-!
# The manual

Each category of the manual has several names, in any letter case and with hyphens or underscores.
-/

namespace SearchQuery.Manual

/-- A category of the manual. -/
inductive Category where
  | terms | operators | ranges | logic | types | dates | queryLists
deriving DecidableEq

namespace Category

/-- Every category, in the order of the overview. -/
def all : List Category := [.terms, .operators, .ranges, .logic, .types, .dates, .queryLists]

/-- The names of a category. -/
def names : Category → List String
  | terms => ["syntax"]
  | operators => ["operators", "ops", "comparisons"]
  | ranges => ["ranges", "range", "lists"]
  | logic => ["logic", "logical", "groups"]
  | types => ["types", "type", "schema"]
  | dates => ["dates", "date", "time", "keywords"]
  | queryLists => ["query_lists", "query_list", "json"]

/-- A name as the lists of names spell it. -/
def normalized (name : String) : String :=
  String.ofList ((Text.lowercase name).toList.map fun c => if c = '-' then '_' else c)

/-- The category with a given name. -/
def ofName? (name : String) : Option Category :=
  all.find? fun category => category.names.contains (normalized name)

/-- The page of a category. -/
def page : Category → String
  | terms => termsPage
  | operators => operatorsPage
  | ranges => rangesPage
  | logic => logicPage
  | types => typesPage
  | dates => datesPage
  | queryLists => queryListsPage

end Category

end SearchQuery.Manual

import TableAccess.Acceptance.Check
import TableAccess.Repository.Search

/-!
The test of cities: search by one ranked statement, by several passes, and by distance.
-/

set_option autoImplicit false
set_option relaxedAutoImplicit false

namespace TableAccess.Acceptance

abbrev cityShape : Shape :=
  ⟨"City",
    [sparse "id" (.optional (.scalar .int64)), sparse "name" (.scalar .varchar),
      sparse "country" (.scalar .varchar)]⟩

abbrev City := Record cityShape

namespace City

/-- A city without an identifier. -/
def new (name country : String) : City := ⟨(none, name, country, ())⟩

def name (c : City) : String := c.members.2.1

end City

def cityStatements : List String :=
  ["DROP TABLE IF EXISTS public.cities",
    "CREATE TABLE public.cities (\n" ++
    "                id BIGSERIAL PRIMARY KEY,\n" ++
    "                name TEXT NOT NULL,\n" ++
    "                country TEXT NOT NULL\n" ++
    "            )"]

def newCities : List City :=
  [.new "Berlin" "Germany", .new "Bern" "Switzerland", .new "Oberbergen" "Germany",
    .new "Paris" "France", .new "Bergamo" "Italy"]

variable {σ κ : Type}

section

variable (k : Coordinator σ κ) (cities : SearchRepository City)

/-- A search that must give cities of the given names, in order. -/
def searchFor (text query : String) (columns : Option (List String)) (o : Clauses)
    (names : List String) : Action (Session σ κ) Unit := do
  let found ← expect text (onTable k (cities.search · query columns o))
  verify (found.map City.name == names)

/-- Searches by one ranked statement. -/
def searchRanked : Action (Session σ κ) Unit := do
  searchFor k cities "Failed to search the cities" "ber" none {}
    ["Berlin", "Bern", "Bergamo", "Oberbergen"]
  searchFor k cities "Failed to search many words" "  PARIS,bern " none {} ["Paris", "Bern"]
  searchFor k cities "Failed to search with a filter" "ber" none
    { filter := some (Filter.empty.eq "country" (.text "Germany")) } ["Berlin", "Oberbergen"]
  searchFor k cities "Failed to search a page" "ber" none { offset := some 1, limit := some 2 }
    ["Bern", "Bergamo"]
  searchFor k cities "Failed to search the overridden columns" "many" (some ["name"]) {} []

/-- Queries without words list the table, and are refused by a strict repository. -/
def searchNothing : Action (Session σ κ) Unit := do
  let listed ← expect "Failed to list the cities" (onTable k (cities.search · " , " none {}))
  verify (listed.length == 5)
  let strict : SearchRepository City := { cities with strict := true }
  let f ← expectFailure "A strict repository must reject an empty query"
    (onTable k (strict.search · "" none {}))
  verify (isRefusal f)

/-- Searches by two passes. -/
def searchByPasses : Action (Session σ κ) Unit := do
  let passes : SearchRepository City := { cities with strategy := .passes none }
  searchFor k passes "Failed the multi pass search" "ber" none {}
    ["Berlin", "Bern", "Bergamo", "Oberbergen"]
  searchFor k passes "Failed the multi pass search of a page" "ber" none
    { offset := some 2, limit := some 2 } ["Bergamo", "Oberbergen"]

/-- Searches by distance after the other passes. -/
def searchByDistance : Action (Session σ κ) Unit := do
  inWorld (setup k ["CREATE EXTENSION IF NOT EXISTS fuzzystrmatch"])
  let fuzzy : SearchRepository City :=
    { cities with strategy := .passes (some SearchStrategy.usualDistance) }
  searchFor k fuzzy "Failed the fuzzy search" "Pariss" none { limit := some 1 } ["Paris"]

end

def testCities (k : Coordinator σ κ) : Action (World σ) Unit := do
  setup k cityStatements
  let cities : SearchRepository City :=
    { table := k.table "cities" none, columns := ["name", "country"] }
  holding k do
    for city in newCities do
      let _ ← expect "Failed to create a city"
        (onTable k (cities.create · (some city.fields) none))
    searchRanked k cities
    searchNothing k cities
    searchByPasses k cities
    searchByDistance k cities
    releaseClean k

end TableAccess.Acceptance

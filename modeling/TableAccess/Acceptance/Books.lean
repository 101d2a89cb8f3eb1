import TableAccess.Acceptance.Check

/-!
The test of books: creation, selection with filters, orders and pages, and updates.
-/

set_option autoImplicit false
set_option relaxedAutoImplicit false

namespace TableAccess.Acceptance

abbrev bookShape : Shape :=
  ⟨"Book",
    [sparse "id" (.optional (.scalar .int64)), sparse "title" (.scalar .varchar),
      sparse "author" (.optional (.scalar .varchar)),
      ⟨"published", "year", .scalar .int32, .sparse⟩,
      sparse "price" (.optional (.scalar .float64)),
      sparse "released" (.optional (.scalar .date))]⟩

abbrev Book := Record bookShape

namespace Book

/-- A book without an identifier. -/
def new (title : String) (author : Option String) (published : Int32)
    (price : Option (Binary .double)) (released : Option Date) : Book :=
  ⟨(none, title, author, published, price, released, ())⟩

def number (b : Book) : Option Int64 := b.members.1

def title (b : Book) : String := b.members.2.1

def author (b : Book) : Option String := b.members.2.2.1

def published (b : Book) : Int32 := b.members.2.2.2.1

def price (b : Book) : Option (Binary .double) := b.members.2.2.2.2.1

def released (b : Book) : Option Date := b.members.2.2.2.2.2.1

def samePrice : Option (Binary .double) → Option (Binary .double) → Bool
  | some x, some y => x.sameValue y
  | none, none => true
  | _, _ => false

def same (a b : Book) : Bool :=
  a.number == b.number && a.title == b.title && a.author == b.author &&
    a.published == b.published && samePrice a.price b.price && a.released == b.released

end Book

def bookStatements : List String :=
  ["DROP TABLE IF EXISTS public.books",
    "CREATE TABLE public.books (\n" ++
    "                id BIGSERIAL PRIMARY KEY,\n" ++
    "                title TEXT NOT NULL,\n" ++
    "                author TEXT,\n" ++
    "                year INTEGER NOT NULL,\n" ++
    "                price DOUBLE PRECISION,\n" ++
    "                released DATE\n" ++
    "            )"]

/-- The release of the first book. -/
def hobbitDay : Date := ⟨Calendar.dayOfCivil ⟨1937, 9, 21⟩, by decide, by decide⟩

def duneDay : Date := ⟨Calendar.dayOfCivil ⟨1965, 8, 1⟩, by decide, by decide⟩

def amount (num den : Nat) : Binary .double := .ofRatio .double false num den

/-- The books that are created one by one. -/
def laterBooks : List Book :=
  [.new "Dune" (some "Herbert") 1965 none none,
    .new "Neuromancer" (some "Gibson") 1984 none none,
    .new "Beowulf" none 1000 none none,
    .new "Silmarillion" (some "Tolkien") 1977 none none]

def byAuthor (name : String) : Filter := Filter.empty.eq "author" (.text name)

variable {σ κ : Type}

section

variable (k : Coordinator σ κ) (books : Repository Book) (summary : Repository Row)

/-- Books are created in a transaction and outside of one. -/
def createBooks : Action (Session σ κ) Unit := do
  for book in laterBooks do
    let _ ← expect "Failed to create a book"
      (onTable k (books.create · (some book.fields) none))
  let created ← expect "Failed to create the book returning a subset"
    (onTable k (summary.create ·
      (some ((Fields.empty.set "title" (.text "Ulysses")).set "year" (int32 1922)))
      (some ["id", "title"])))
  verify (created.labels == ["id", "title"])
  verify ((created.get? "title").any (·.same (.text "Ulysses")))

/-- Books are found by filters, in orders and by pages. -/
def findBooks (hobbit : Int64) : Action (Session σ κ) (List Book) := do
  let all ← expect "Failed to find every book" (onTable k (books.find · {}))
  verify (all.length == 6)
  verify ((all.head?.bind Book.number) == some hobbit)
  verify (increasing (fun a b => match a, b with
    | none, some _ => true
    | some m, some n => decide (m < n)
    | _, none => false) (all.map Book.number))
  let recent ← expect "Failed to find the recent books"
    (onTable k (books.find ·
      { filter := some (Filter.empty.compare "year" .greaterThan (int32 1950))
        order := some [("year", .descending)] }))
  verify (recent.map Book.title == ["Neuromancer", "Silmarillion", "Dune"])
  let paged ← expect "Failed to find a page of books"
    (onTable k (books.find ·
      { order := some [("year", .ascending)], offset := some 1, limit := some 2 }))
  verify (paged.map Book.published == [1922, 1937])
  let anonymous ← expect "Failed to find the books by author"
    (onTable k (books.find ·
      { filter := some (Filter.empty.anyOf "author" [.null, .text "Herbert"]) }))
  verify (anonymous.map Book.title == ["Dune", "Beowulf", "Ulysses"])
  let grouped ← expect "Failed to find the books with a grouped filter"
    (onTable k (books.find ·
      { filter := some ((byAuthor "Tolkien").or
          [Filter.empty.compare "year" .lessThan (int32 1940),
            Filter.empty.compare "year" .greaterThan (int32 1970)]) }))
  verify (grouped.map Book.title == ["The Hobbit", "Silmarillion"])
  return all

/-- Single books are found by an order, by a filter and by their identifiers. -/
def findSingleBooks (hobbit : Book) (id : Int64) : Action (Session σ κ) Unit := do
  let oldest ← expect "Failed to find the oldest book"
    (onTable k (books.findOne · { order := some [("year", .ascending)] }))
  let oldest ← expectSome "There is no oldest book" oldest
  verify (oldest.title == "Beowulf")
  verify (oldest.author == none)
  let missing ← expect "Failed to look for a missing book"
    (onTable k (books.findOne ·
      { filter := some (Filter.empty.eq "title" (.text "Missing")) }))
  verify missing.isNone
  let found ← expect "Failed to find the book by id" (onTable k (books.findById · id none))
  let found ← expectSome "The book is missing" found
  verify (found.same hobbit)
  let part ← expect "Failed to find the partial book by id"
    (onTable k (summary.findById · id (some ["title"])))
  let part ← expectSome "The partial book is missing" part
  verify (part.labels == ["title"])
  let absent ← expect "Failed to look for a missing id" (onTable k (books.findById · (-1) none))
  verify absent.isNone

/-- Books are updated by filters. -/
def updateBooks : Action (Session σ κ) Unit := do
  let updated ← expect "Failed to update the books by author"
    (onTable k (books.update · (some (byAuthor "Tolkien"))
      (some (Fields.empty.set "price" (double (amount 20 1)))) none))
  verify (updated.length == 2)
  verify (updated.all fun b => Book.samePrice b.price (some (amount 20 1)))
  let unchanged ← expect "Failed to run an update matching nothing"
    (onTable k (books.update · (some (byAuthor "Nobody"))
      (some (Fields.empty.set "price" (double (amount 1 1)))) none))
  verify unchanged.isEmpty

/-- Single books are updated by their identifiers. -/
def updateSingleBooks (all : List Book) (id : Int64) : Action (Session σ κ) Unit := do
  let dune ← expectSome "Dune is missing"
    ((all.find? fun b => b.title == "Dune").bind Book.number)
  let dune ← expect "Failed to update the book by id"
    (onTable k (books.updateById · dune
      (some ((Fields.empty.set "price" (double (amount 25 2))).set "released"
        (.scalar .date (some duneDay)))) none))
  let dune ← expectSome "The updated book is missing" dune
  verify (dune.title == "Dune")
  verify (Book.samePrice dune.price (some (amount 25 2)))
  verify (dune.released == some duneDay)
  let returned ← expect "Failed to update the book returning a subset"
    (onTable k (summary.updateById · id
      (some (Fields.empty.set "author" (.nullOf .varchar))) (some ["author"])))
  let returned ← expectSome "The updated book is missing" returned
  verify (returned.labels == ["author"])
  verify ((returned.get? "author").any (·.same (.nullOf .varchar)))
  let absent ← expect "Failed to update a missing id"
    (onTable k (books.updateById · (-1)
      (some (Fields.empty.set "price" (double (amount 1 1)))) none))
  verify absent.isNone

end

def testBooks (k : Coordinator σ κ) : Action (World σ) Unit := do
  setup k bookStatements
  let books : Repository Book := ⟨k.table "books" none⟩
  let summary : Repository Row := ⟨k.table "books" none⟩
  let first : Book :=
    .new "The Hobbit" (some "Tolkien") 1937 (some (amount 19 2)) (some hobbitDay)
  let hobbit ← expect "Failed to create the first book"
    (k.ownTransaction (onTable k (books.create · (some first.fields) none)))
  let id ← expectSome "The created book has no id" hobbit.number
  verify (hobbit.title == "The Hobbit")
  verify (hobbit.author == some "Tolkien")
  verify (hobbit.published == 1937)
  verify (Book.samePrice hobbit.price (some (amount 19 2)))
  verify (hobbit.released == some hobbitDay)
  holding k do
    createBooks k books summary
    let all ← findBooks k books id
    findSingleBooks k books summary hobbit id
    updateBooks k books
    updateSingleBooks k books summary all id
    releaseClean k

end TableAccess.Acceptance

import TableAccess.Repository.Basic
import TableAccess.Text.Words

/-!
Search for the words of a query in some columns of a table, by one ranked statement or by
several passes of falling precision. The rows of several passes are put one after another, and
a row whose identifier has come before is left out.
-/

set_option autoImplicit false
set_option relaxedAutoImplicit false

namespace TableAccess

/-- How a search is made: by one statement that puts matches at the start first, or by passes
for matches at the start, for matches anywhere and, if a distance function is given, for
everything by its distance. -/
inductive SearchStrategy
  | ranked
  | passes (fuzzy : Option String)
  deriving DecidableEq, Repr

namespace SearchStrategy

def usualDistance : String := "levenshtein"

/-- The passes of a search by passes, in order. -/
def passList (fuzzy : Option String) : List SearchPass :=
  [.leading, .containing] ++ (fuzzy.map SearchPass.fuzzy).toList

end SearchStrategy

/-- How many rows a search gives when no limit, or a limit of zero, is asked for. -/
def defaultSearchLimit : UInt64 := 10

/-- The sum of two words, or the greatest word when it is exceeded. -/
def saturatingSum (a b : UInt64) : UInt64 :=
  UInt64.ofNat (min (a.toNat + b.toNat) (2 ^ 64 - 1))

theorem toNat_saturatingSum (a b : UInt64) :
    (saturatingSum a b).toNat = min (a.toNat + b.toNat) (2 ^ 64 - 1) := by
  have small : min (a.toNat + b.toNat) (2 ^ 64 - 1) < UInt64.size :=
    Nat.lt_of_le_of_lt (Nat.min_le_right _ _) (by decide)
  rw [saturatingSum, UInt64.toNat_ofNat_of_lt' small]

/-- Rows that have been found, and the identifiers among them. -/
structure Found (α : Type) where
  rows : List α
  seen : List Int64

namespace Found

variable {α : Type} [Entity α]

def nothing : Found α := ⟨[], []⟩

/-- What has been found with a further row, unless its identifier has been seen. -/
def add (f : Found α) (row : α) : Found α :=
  match Entity.id? row with
  | none => { f with rows := f.rows ++ [row] }
  | some id => if f.seen.contains id then f else ⟨f.rows ++ [row], f.seen ++ [id]⟩

/-- What has been found with further rows, up to the wanted number of rows. -/
def addAll (wanted : Nat) (f : Found α) : List α → Found α
  | [] => f
  | row :: rows => if wanted ≤ f.rows.length then f else addAll wanted (f.add row) rows

end Found

/-- The entities of a table, with the columns to search. A strict search refuses a query
without words, another one lists the table for it. -/
structure SearchRepository (α : Type) extends Repository α where
  columns : List String
  strict : Bool := false
  strategy : SearchStrategy := .ranked

namespace SearchRepository

variable {S α : Type} [Entity α]

def runPass (r : SearchRepository α) (x : Executor S) (words columns : List String) (o : Clauses)
    (pass : SearchPass) : Fallible S (List α) :=
  x.fetch (Statement.search x.dialect r.table words columns o pass).query

/-- Passes one after another, as long as rows are wanted. -/
def runPasses (r : SearchRepository α) (x : Executor S) (words columns : List String)
    (o : Clauses) (wanted : Nat) (found : Found α) : List SearchPass → Fallible S (List α)
  | [], s => (.ok found.rows, s)
  | pass :: passes, s =>
    if wanted ≤ found.rows.length then (.ok found.rows, s)
    else match r.runPass x words columns o pass s with
      | (.error f, s) => (.error f, s)
      | (.ok rows, s) => runPasses r x words columns o wanted (found.addAll wanted rows) passes s

/-- A page of the rows of several passes. Every pass takes as many rows as reach to the end of
the page. -/
def searchPasses (r : SearchRepository α) (x : Executor S) (words columns : List String)
    (o : Clauses) (offset limit : UInt64) (passes : List SearchPass) : Fallible S (List α) :=
  let window := saturatingSum offset limit
  let o := { o with offset := none, limit := some window }
  fun s =>
    match r.runPasses x words columns o window.toNat .nothing passes s with
    | (.ok rows, s) => (.ok ((rows.drop offset.toNat).take limit.toNat), s)
    | (.error f, s) => (.error f, s)

/-- How many rows are taken for a limit that is asked for. -/
def effectiveLimit (limit : Option UInt64) : UInt64 :=
  match limit with
  | some n => if n = 0 then defaultSearchLimit else n
  | none => defaultSearchLimit

/-- Searches the words of a query in the given columns, or in those of the repository. Of the
clauses the filter, the order and the paging count. -/
def search (r : SearchRepository α) (x : Executor S) (query : String)
    (columns : Option (List String)) (o : Clauses) : Fallible S (List α) :=
  let words := Text.words query
  let columns := columns.getD r.columns
  let limit := effectiveLimit o.limit
  let o := { o with limit := some limit }
  if words.isEmpty then
    if r.strict then x.refuse .emptySearch else r.runPass x [] columns o .listing
  else if columns.isEmpty then x.refuse .noSearchColumns
  else match r.strategy with
    | .ranked => r.runPass x words columns o .ranked
    | .passes fuzzy =>
      r.searchPasses x words columns o (o.offset.getD 0) limit
        (SearchStrategy.passList fuzzy)

end SearchRepository

end TableAccess

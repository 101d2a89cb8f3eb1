import TableAccess.Number.Integer
import TableAccess.Query
import TableAccess.Wire.Encode

/-!
Prepared statements: what a server tells of a statement that it prepares, and the stream of rows
that it answers with once the parameters are bound.
-/

set_option autoImplicit false
set_option relaxedAutoImplicit false

namespace TableAccess.Link

open Wire (Images)

/-- What a server does with a statement: the types of its parameters, the names and types of its
columns unless it gives no rows, the rows and the tag that tells what was done, or the errors of
preparing it, of binding its parameters, and of the end of its rows. -/
structure Prepared where
  params : List Wire.SqlType := []
  columns : Option (List (String × Wire.SqlType)) := none
  rows : List Images := []
  tag : String := "SELECT 0"
  prepareError : Option String := none
  bindError : Option String := none
  rowError : Option String := none

namespace Prepared

/-- The failure by an error of the server. -/
def serverFailure (text : String) : Failure := ⟨[], .reported ["db error", "ERROR: " ++ text]⟩

/-- The number of rows that a tag tells of: its last word, if that is a number. -/
def affected (tag : String) : UInt64 :=
  let word := (Text.pieces (· == ' ') tag.toList).getLastD []
  match (IntegerRange.unsigned 64).read word with
  | .ok n => UInt64.ofNat n.toNat
  | .error _ => 0

/-- The cells of a row, the first one of them being that of the column `index`. -/
def decodeCells : Nat → List (String × Wire.SqlType) → Images →
    Except Failure (List (String × Value))
  | index, (name, type) :: columns, image :: images =>
    match Wire.decode type image with
    | .error e => .error (e.failure.within (.resultColumn index name type.name))
    | .ok v =>
      match decodeCells (index + 1) columns images with
      | .error f => .error f
      | .ok cells => .ok ((name, v) :: cells)
  | _, _, _ => .ok []

/-- The rows of the statement, if it gives any. -/
def visibleRows (p : Prepared) : List Images := if p.columns.isSome then p.rows else []

def ending (p : Prepared) : Except Failure Reply :=
  match p.rowError with
  | some text => .error (serverFailure text)
  | none => .ok (.affected (affected p.tag))

/-- The stream of the given rows up to the first one that does not decode, and its end. -/
def stream (p : Prepared) : List Images → Answer
  | [] => [p.ending]
  | images :: rows =>
    match decodeCells 0 (p.columns.getD []) images with
    | .error f => [.error f]
    | .ok cells => .ok (.row ⟨cells⟩) :: stream p rows

def answer (p : Prepared) : Answer := p.stream p.visibleRows

/-- The bytes of parameters, the first one of them being that at `index`. -/
def encodeParams : Nat → List Wire.SqlType → List Value → Except Failure Images
  | index, type :: types, v :: values =>
    match Wire.encode type v with
    | .error e =>
      .error ⟨[], .reported (("error serializing parameter " ++ Text.natText index) :: e.chain)⟩
    | .ok image =>
      match encodeParams (index + 1) types values with
      | .error f => .error f
      | .ok images => .ok (image :: images)
  | _, _, _ => .ok []

/-- The bytes of the parameters of the statement, of which there must be as many as it has. -/
def bindParams (p : Prepared) (values : List Value) : Except Failure Images :=
  if values.length = p.params.length then encodeParams 0 p.params values
  else
    .error (.reported ("expected " ++ Text.natText p.params.length ++ " parameters but got " ++
      Text.natText values.length))

end Prepared

end TableAccess.Link

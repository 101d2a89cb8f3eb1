import TableAccess.Text.Excerpt
import TableAccess.Value.FieldType

/-!
What can go wrong between a program and its tables: a cause, and the activities that the parts
of the library were about when it arose.
-/

set_option autoImplicit false
set_option relaxedAutoImplicit false

namespace TableAccess

/-- Why an operation refuses its arguments. -/
inductive Refusal
  | nothingToCreate
  | nothingToUpdate
  | noItemToCreate
  | emptySearch
  | noSearchColumns
  deriving DecidableEq, Repr

def Refusal.message : Refusal → String
  | .nothingToCreate => "the entity to create is missing"
  | .nothingToUpdate => "the partial entity to update is missing"
  | .noItemToCreate => "the item to create is missing"
  | .emptySearch => "the search query is empty"
  | .noSearchColumns => "there are no columns to search"

/-- The cause of a failure. What the server or the program reports comes as a chain of texts,
the outermost first. -/
inductive Cause
  | invalidArguments (reason : Refusal)
  | connectionUnavailable (why : List String)
  | clientReleased
  | conversion (error : ConversionError)
  | noInsertedRow
  | unexpectedId (value : Value)
  | unexpectedIds (value : Value)
  | reported (chain : List String)

/-- The texts of a cause, the outermost first. -/
def Cause.chain : Cause → List String
  | .invalidArguments reason => ["There are invalid arguments: " ++ reason.message]
  | .connectionUnavailable why =>
    "Could not acquire a connection from the pool" :: why
  | .clientReleased => ["The client was already released"]
  | .conversion e => e.chain
  | .noInsertedRow => ["The insert did not return any row"]
  | .unexpectedId v => ["Unexpected id " ++ v.messageText]
  | .unexpectedIds v => ["Unexpected ids " ++ v.messageText]
  | .reported chain => chain

/-- The name of the kind of a cause. The kinds that callers tell apart have names of their own. -/
def Cause.kind : Cause → String
  | .invalidArguments _ => "InvalidArguments"
  | .connectionUnavailable _ => "ConnectionUnavailable"
  | .clientReleased => "ClientReleased"
  | _ => "Error"

/-- What was being done when a failure arose. -/
inductive Activity
  | query (sql : String)
  | recordColumn (column record : String)
  | resultColumn (index : Nat) (name type : String)
  | sqlType (type : String)
  | connecting (url : String)
  deriving DecidableEq, Repr

def Activity.message : Activity → String
  | .query sql => "While running the query:\n" ++ Text.excerpt sql
  | .recordColumn column record =>
    "While decoding column `" ++ column ++ "` into `" ++ record ++ "`"
  | .resultColumn index name type =>
    "Could not decode column " ++ Text.natText index ++ " `" ++ name ++ "` of type " ++ type
  | .sqlType type => "Cannot decode sql type `" ++ type ++ "`"
  | .connecting url => "While trying to connect to `" ++ Text.excerpt url ++ "`"

/-- A cause, and what was being done when it arose, the outermost first. -/
structure Failure where
  activities : List Activity
  cause : Cause

namespace Failure

/-- A failure by itself. -/
def of (cause : Cause) : Failure := ⟨[], cause⟩

def reported (text : String) : Failure := ⟨[], .reported [text]⟩

/-- A failure of what is done in the course of an activity. -/
def within (activity : Activity) (f : Failure) : Failure :=
  { f with activities := activity :: f.activities }

@[simp] theorem activities_within (activity : Activity) (f : Failure) :
    (f.within activity).activities = activity :: f.activities := rfl

@[simp] theorem cause_within (activity : Activity) (f : Failure) :
    (f.within activity).cause = f.cause := rfl

/-- The texts of a failure, the outermost first. -/
def chain (f : Failure) : List String := f.activities.map Activity.message ++ f.cause.chain

/-- What was being done comes in front of the texts of a failure. -/
theorem chain_within (activity : Activity) (f : Failure) :
    (f.within activity).chain = activity.message :: f.chain := rfl

/-- The whole text of a failure. -/
def message (f : Failure) : String := ": ".intercalate f.chain

def outermost (f : Failure) : String := f.chain.headD ""

end Failure

end TableAccess

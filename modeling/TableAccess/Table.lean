/-!
Tables by schema and name, and the schema of a table that is named without one.
-/

set_option autoImplicit false
set_option relaxedAutoImplicit false

namespace TableAccess

/-- A table of a schema. -/
structure Table where
  schema : String
  name : String
  deriving DecidableEq, Repr

namespace Table

/-- The schema of the tables that are named without one where no default is configured. -/
def defaultSchema : String := "public"

/-- The first text that is not empty, if any. -/
def firstNonempty : List (Option String) → Option String
  | [] => none
  | some s :: rest => if s = "" then firstNonempty rest else some s
  | none :: rest => firstNonempty rest

/-- A table of the schema that is given, else of the configured one, else of the default one. -/
def resolve (name : String) (schema configured : Option String) : Table :=
  ⟨(firstNonempty [schema, configured]).getD defaultSchema, name⟩

def fullName (t : Table) : String := t.schema ++ "." ++ t.name

end Table

end TableAccess

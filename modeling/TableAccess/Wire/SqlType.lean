/-!
The types of columns and parameters: the scalars that have a binary form of their own, texts,
arrays, and all others, which travel as texts.
-/

set_option autoImplicit false
set_option relaxedAutoImplicit false

namespace TableAccess.Wire

/-- The scalar types with a binary form of their own. -/
inductive Scalar
  | bool
  | char
  | int2
  | int4
  | int8
  | oid
  | float4
  | float8
  | numeric
  | bytea
  | date
  | time
  | timetz
  | timestamp
  | timestamptz
  | interval
  | uuid
  deriving DecidableEq, Repr

/-- The name of a type, its schema and the number that the server knows it by. -/
structure TypeLabel where
  schema : String
  name : String
  oid : Nat
  deriving DecidableEq, Repr

def catalogSchema : String := "pg_catalog"

def TypeLabel.builtin (name : String) (oid : Nat) : TypeLabel := ⟨catalogSchema, name, oid⟩

/-- The label as messages give it, without the usual schemas. -/
def TypeLabel.text (l : TypeLabel) : String :=
  if l.schema = "public" ∨ l.schema = catalogSchema then l.name else l.schema ++ "." ++ l.name

/-- The type of a column or a parameter. The null of a text type is that of a text; the lowest
index of the elements of an array belongs to its type. -/
inductive SqlType
  | scalar (s : Scalar)
  | text (label : TypeLabel)
  | array (label : TypeLabel) (lowest : Nat) (member : SqlType)
  | other (label : TypeLabel)
  deriving DecidableEq, Repr

def Scalar.label : Scalar → TypeLabel
  | .bool => .builtin "bool" 16
  | .char => .builtin "char" 18
  | .int2 => .builtin "int2" 21
  | .int4 => .builtin "int4" 23
  | .int8 => .builtin "int8" 20
  | .oid => .builtin "oid" 26
  | .float4 => .builtin "float4" 700
  | .float8 => .builtin "float8" 701
  | .numeric => .builtin "numeric" 1700
  | .bytea => .builtin "bytea" 17
  | .date => .builtin "date" 1082
  | .time => .builtin "time" 1083
  | .timetz => .builtin "timetz" 1266
  | .timestamp => .builtin "timestamp" 1114
  | .timestamptz => .builtin "timestamptz" 1184
  | .interval => .builtin "interval" 1186
  | .uuid => .builtin "uuid" 2950

namespace SqlType

def label : SqlType → TypeLabel
  | .scalar s => s.label
  | .text l => l
  | .array l _ _ => l
  | .other l => l

/-- The number that the server knows a type by. -/
def oid (t : SqlType) : Nat := t.label.oid

def name (t : SqlType) : String := t.label.text

end SqlType

end TableAccess.Wire

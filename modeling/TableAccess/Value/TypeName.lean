import TableAccess.Text.Split
import TableAccess.Value.FieldType

/-!
The short names of the types of fields, as the declarations of records write them.
-/

set_option autoImplicit false
set_option relaxedAutoImplicit false

namespace TableAccess.FieldType

/-- The short names of the types that are not made of others. -/
def simpleNames : List (String × FieldType) :=
  [("bool", .scalar .boolean), ("i16", .scalar .int16), ("i32", .scalar .int32),
    ("i64", .scalar .int64), ("f32", .scalar .float32), ("f64", .scalar .float64),
    ("Decimal", .scalar .decimal), ("String", .scalar .varchar), ("Cow<str>", .borrowed),
    ("Box<[u8]>", .scalar .blob), ("Date", .scalar .date), ("Time", .scalar .time),
    ("PrimitiveDateTime", .scalar .timestamp), ("OffsetDateTime", .scalar .zonedTimestamp),
    ("Interval", .scalar .interval), ("TimeTz", .scalar .zonedClock), ("Uuid", .scalar .uuid),
    ("Duration", .duration)]

/-- The names of the types that are made of one other type. -/
def wrapperNames : List (String × (FieldType → FieldType)) :=
  [("Option", .optional), ("Box", .boxed), ("Arc", .shared), ("Vec", .listed)]

/-- The type that a wrapper makes of another one, and the name of that one in its brackets. -/
def splitWrapper? (s : List Char) : Option ((FieldType → FieldType) × List Char) :=
  wrapperNames.findSome? fun (name, wrap) =>
    match Text.dropLead? (name ++ "<").toList s with
    | some inner => if inner.getLast? = some '>' then some (wrap, inner.dropLast) else none
    | none => none

/-- The type with a short name that is made of at most `fuel` others. -/
def ofChars? : Nat → List Char → Option FieldType
  | fuel, s =>
    match simpleNames.lookup (String.ofList s) with
    | some t => some t
    | none =>
      match fuel, splitWrapper? s with
      | fuel + 1, some (wrap, inner) => (ofChars? fuel inner).map wrap
      | _, _ => none

def ofName? (name : String) : Option FieldType := ofChars? name.length name.toList

end TableAccess.FieldType

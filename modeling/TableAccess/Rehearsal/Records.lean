import TableAccess.Record

/-!
The records that rehearsals read and write: fields of every type, renamed and ignored ones, and
identifiers of several types.
-/

set_option autoImplicit false
set_option relaxedAutoImplicit false

namespace TableAccess.Rehearsal

/-- A field that is stored in a column of its own name. -/
def stored (name : String) (type : FieldType) : Field := ⟨name, name, type, .stored⟩

def integerField : FieldType := .scalar .int64

def textField : FieldType := .scalar .varchar

def idField : Field := stored "id" (.optional integerField)

def item : Shape :=
  ⟨"Item", [idField, stored "name" textField, stored "price" (.optional (.scalar .float64))]⟩

def city : Shape := ⟨"City", [idField, stored "name" textField]⟩

/-- A customer, with a field that is kept out of the table. -/
def customer : Shape :=
  ⟨"Customer", [idField, ⟨"name", "full_name", textField, .stored⟩,
    stored "email" (.optional textField), stored "balance" (.scalar .decimal),
    stored "joined" (.optional (.scalar .date)), stored "tags" (.listed textField),
    ⟨"cached", "cached", .optional (.shared textField), .ignored⟩]⟩

/-- An event, without an identifier. -/
def event : Shape := ⟨"Event", [stored "code" (.scalar .uuid), stored "title" .borrowed]⟩

def ticket : Shape :=
  ⟨"Ticket", [idField, stored "event" textField, stored "price" (.optional integerField),
    ⟨"printed", "printed", .scalar .boolean, .ignored⟩]⟩

def sample : Shape :=
  ⟨"Sample", [stored "flag" (.scalar .boolean), stored "small" (.scalar .int16),
    stored "mid" (.scalar .int32), ⟨"key", "id", integerField, .stored⟩,
    stored "single" (.scalar .float32), stored "double" (.scalar .float64),
    stored "bytes" (.scalar .blob), stored "day" (.scalar .date), stored "at" (.scalar .time),
    stored "stamp" (.scalar .timestamp), stored "zoned" (.scalar .zonedTimestamp),
    stored "span" (.scalar .interval), stored "clock" (.scalar .zonedClock),
    stored "lasting" .duration, stored "list" (.listed (.optional (.scalar .int32))),
    stored "boxed" (.boxed (.scalar .int16)),
    stored "shared" (.optional (.shared (.scalar .int32)))]⟩

/-- A record whose identifier is kept out of the table. -/
def hidden : Shape := ⟨"Hidden", [⟨"id", "id", integerField, .ignored⟩, stored "name" textField]⟩

def short : Shape := ⟨"Short", [stored "id" (.scalar .int16)]⟩

def named : Shape :=
  ⟨"Named", [stored "id" textField,
    ⟨"v", "odd\"col umn", .listed (.listed integerField), .stored⟩]⟩

def shapes : List Shape :=
  [item, city, customer, event, ticket, sample, hidden, short, named]

def shape? (name : String) : Option Shape := shapes.find? fun s => s.name == name

end TableAccess.Rehearsal

import TableAccess.Record
import TableAccess.Schema.Mapping

/-!
The shape of the records that a declaration declares. Which type some trees denote is not for the
mapping to know; that of optional values is told by its name.
-/

set_option autoImplicit false
set_option relaxedAutoImplicit false

namespace TableAccess.Schema

namespace MappedField

def role (f : MappedField) : FieldRole :=
  if f.ignored then .ignored else if f.optional then .sparse else .stored

/-- The field of a record, with the type that its trees denote. -/
def toField (denoted : List Tree → FieldType) (f : MappedField) : Field :=
  ⟨f.name, f.column, denoted f.type, f.role⟩

end MappedField

/-- The shape of the records of a declaration, by the types that trees denote. -/
def Declaration.shape (denoted : List Tree → FieldType) (d : Declaration) :
    Except MappingError Shape :=
  d.map.map fun fs => ⟨d.name, fs.map (MappedField.toField denoted)⟩

end TableAccess.Schema

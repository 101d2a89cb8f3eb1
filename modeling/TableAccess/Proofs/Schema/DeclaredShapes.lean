import TableAccess.Proofs.Record.Survival
import TableAccess.Schema.Shape

/-!
The records of a declaration.

What a declaration says of its fields is what their records go by: the columns that rows are read
from and written to are those of the fields that are not left out, and the identifier is that of
the first of them whose column is `id`, as the code that is written for the declaration has it.
-/

set_option autoImplicit false
set_option relaxedAutoImplicit false

namespace TableAccess

/-! ### Columns and identifiers -/

namespace Record

theorem sublist_mappedColumns (fs : List Field) (members : Members fs) :
    ((writeMembers fs members).map Prod.fst).Sublist (mappedColumns fs) := by
  induction fs with
  | nil => exact .slnil
  | cons f fs ih =>
    obtain ⟨x, rest⟩ := members
    rw [writeMembers]
    cases ignored : f.ignored with
    | true =>
      rw [Field.written?_ignored ignored, mappedColumns_ignored ignored]
      exact ih rest
    | false =>
      rw [mappedColumns_mapped ignored]
      split
      · exact (ih rest).cons_cons _
      · exact (ih rest).cons _

/-- What is stored is always written. -/
theorem mem_columns_of_stored {fs : List Field} (members : Members fs) {f : Field} (mem : f ∈ fs)
    (stored : f.role = .stored) : f.column ∈ (writeMembers fs members).map Prod.fst := by
  induction fs with
  | nil => cases mem
  | cons g fs ih =>
    obtain ⟨x, rest⟩ := members
    rw [writeMembers]
    rcases List.mem_cons.mp mem with rfl | mem
    · have written : f.written? x = some (f.type.toValue x) := by
        simp only [Field.written?, stored]
      rw [written]
      exact List.mem_cons_self
    · split
      · exact List.mem_cons_of_mem _ (ih rest mem)
      · exact ih rest mem

/-- What the fields of a record hold, in order, as values. -/
def values {s : Shape} (r : Record s) : List Value := r.toList.map Prod.snd

/-- The field is read from the column of identifiers. -/
def identifies (f : Field) : Bool := !f.ignored && f.column == "id"

theorem readId_eq (fs : List Field) (members : Members fs) : readId fs members =
    ((fs.zip ((listMembers fs members).map Prod.snd)).find? fun e => identifies e.1).bind
      fun e => e.2.integer? := by
  induction fs with
  | nil => rfl
  | cons f fs ih =>
    obtain ⟨x, rest⟩ := members
    rw [readId, listMembers, List.map_cons, List.zip_cons_cons, List.find?_cons, identifies]
    cases !f.ignored && f.column == "id" with
    | true => rfl
    | false => exact ih rest

end Record

namespace Schema

/-! ### Mappings -/

theorem mapFields_eq_ok_iff {fs : List DeclaredField} {ms : List MappedField} :
    mapFields fs = .ok ms ↔ List.Forall₂ (fun f m => f.map = .ok m) fs ms := by
  induction fs generalizing ms with
  | nil =>
    rw [mapFields, List.forall₂_nil_left_iff, Except.ok.injEq]
    exact eq_comm
  | cons f fs ih =>
    constructor
    · intro mapped
      rw [mapFields] at mapped
      split at mapped
      · cases mapped
      · next m first =>
        split at mapped
        · cases mapped
        · next others rest =>
          cases mapped
          exact .cons first (ih.mp rest)
    · rintro (_ | ⟨first, rest⟩)
      simp only [mapFields, first, ih.mpr rest]

namespace DeclaredField

/-- The attribute does not start with the name of those that say how a field is mapped. -/
def Foreign (a : List Tree) : Prop := ∀ rest, a ≠ .word attributeName :: rest

theorem readAttribute_foreign {a : List Tree} (foreign : Foreign a) (m : Marks) :
    m.readAttribute a = .ok m := by
  have other {s : String} {rest : List Tree} (front : a = .word s :: rest) : s ≠ attributeName :=
    fun same => foreign rest (same ▸ front)
  unfold Marks.readAttribute
  split
  · exact if_neg (other rfl)
  · exact if_neg (other rfl)
  · exact if_neg (other rfl)
  · rfl

theorem readAttributes_foreign {attributes : List (List Tree)}
    (foreign : ∀ a ∈ attributes, Foreign a) (m : Marks) : m.readAttributes attributes = .ok m := by
  induction attributes with
  | nil => rfl
  | cons a attributes ih =>
    obtain ⟨first, others⟩ := List.forall_mem_cons.mp foreign
    rw [Marks.readAttributes, readAttribute_foreign first]
    exact ih others

/-- The field in a column of its own name. -/
def unmarked (f : DeclaredField) : MappedField :=
  ⟨f.name, f.type, f.name, false, isOptional f.type⟩

/-- A field is mapped to a column of its own name unless an attribute says otherwise. -/
theorem map_of_foreign {f : DeclaredField} (foreign : ∀ a ∈ f.attributes, Foreign a) :
    f.map = .ok f.unmarked := by
  rw [map, readAttributes_foreign foreign]
  rfl

end DeclaredField

/-! ### Shapes -/

namespace MappedField

variable (denoted : List Tree → FieldType) (f : MappedField)

@[simp] theorem toField_ignored : (f.toField denoted).ignored = f.ignored := by
  obtain ⟨name, type, column, ignored, optional⟩ := f
  cases ignored <;> cases optional <;> rfl

@[simp] theorem toField_column : (f.toField denoted).column = f.column := rfl

theorem toField_stored (mapped : f.ignored = false) (always : f.optional = false) :
    (f.toField denoted).role = .stored := by
  simp only [toField, role, mapped, always, Bool.false_eq_true, if_false]

theorem mappedColumns_toField (ms : List MappedField) :
    mappedColumns (ms.map (toField denoted)) =
      (ms.filter fun m => !m.ignored).map MappedField.column := by
  simp only [mappedColumns, List.filter_map, List.map_map, Function.comp_def, toField_ignored,
    toField_column]

end MappedField

theorem Declaration.shape_eq_ok_iff {denoted : List Tree → FieldType} {d : Declaration}
    {s : Shape} : d.shape denoted = .ok s ↔
      ∃ ms, d.map = .ok ms ∧ s = ⟨d.name, ms.map (MappedField.toField denoted)⟩ := by
  rw [shape]
  cases d.map with
  | error e => exact iff_of_false nofun nofun
  | ok ms =>
    constructor
    · intro shaped
      cases shaped
      exact ⟨ms, rfl, rfl⟩
    · rintro ⟨_, same, rfl⟩
      cases same
      rfl

/-- Whatever types its trees denote, the records of a declaration are read from and written to the
columns that its mapping names and to no others, in order. All of them are written that are not of
optional values. The identifier of a record is the integer of the first mapped field whose column
is `id`. -/
theorem Declaration.records_follow_mapping {denoted : List Tree → FieldType} {d : Declaration}
    {s : Shape} (shaped : d.shape denoted = .ok s) :
    ∃ ms, d.map = .ok ms ∧ s.name = d.name ∧
      mappedColumns s.fields = (ms.filter fun m => !m.ignored).map MappedField.column ∧
      ∀ r : Record s,
        (r.fields.entries.map Prod.fst).Sublist (mappedColumns s.fields) ∧
        (∀ m ∈ ms, m.ignored = false → m.optional = false →
          m.column ∈ r.fields.entries.map Prod.fst) ∧
        r.id? = ((ms.zip r.values).find? fun e => !e.1.ignored && e.1.column == "id").bind
          fun e => e.2.integer? := by
  obtain ⟨ms, mapped, rfl⟩ := shape_eq_ok_iff.mp shaped
  refine ⟨ms, mapped, rfl, MappedField.mappedColumns_toField denoted ms, fun r =>
    ⟨Record.sublist_mappedColumns _ _, fun m mem kept always => ?_, ?_⟩⟩
  · exact Record.mem_columns_of_stored r.members (List.mem_map_of_mem mem)
      (m.toField_stored denoted kept always)
  · rw [Record.id?, Record.readId_eq, List.zip_map_left, List.find?_map, Option.bind_map]
    simp only [Function.comp_def, Record.identifies, Prod.map_fst, MappedField.toField_ignored,
      MappedField.toField_column]
    rfl

/-- Where no attribute says how a field is mapped, the columns have the names of the fields. -/
theorem Declaration.columns_of_foreign (denoted : List Tree → FieldType) {d : Declaration}
    {fields : List DeclaredField} (named : d.fields = .named fields)
    (foreign : ∀ f ∈ fields, ∀ a ∈ f.attributes, DeclaredField.Foreign a) :
    ∃ s, d.shape denoted = .ok s ∧ mappedColumns s.fields = fields.map DeclaredField.name := by
  have mapped : d.map = .ok (fields.map DeclaredField.unmarked) := by
    rw [map, named]
    refine mapFields_eq_ok_iff.mpr (List.forall₂_map_right_iff.mpr (List.forall₂_same.mpr ?_))
    exact fun f mem => DeclaredField.map_of_foreign (foreign f mem)
  refine ⟨_, shape_eq_ok_iff.mpr ⟨_, mapped, rfl⟩, ?_⟩
  have kept : (fields.map DeclaredField.unmarked).filter (fun m => !m.ignored) =
      fields.map DeclaredField.unmarked :=
    List.filter_eq_self.mpr (List.forall_mem_map.mpr fun _ _ => rfl)
  rw [MappedField.mappedColumns_toField, kept, List.map_map]
  rfl

/-- A renamed field, and one that is left out. -/
example : ((Declaration.read? "struct Patient \x7b
      id: Option<i64>,
      #[postgrape(name = \"full_name\")] name: String,
      #[postgrape(ignore)] seen: bool
    \x7d").map fun d => (d.shape fun _ => .borrowed).map fun s => mappedColumns s.fields) =
      some (.ok ["id", "full_name"]) := by decide +kernel

end Schema

end TableAccess

import TableAccess.Proofs.Value.Conversion
import TableAccess.Record

/-!
Records survive the way through a row.

A row in which the written fields of a record stand, in whatever order and among whatever other
columns, is read as that record again. The fields that are left out of the table come back with
what they hold initially, and the fields that were not written because they hold nothing come
back with nothing.
-/

set_option autoImplicit false
set_option relaxedAutoImplicit false

namespace TableAccess

/-! ### Rows with distinct labels -/

namespace Row

theorem get?_of_mem {row : Row} (distinct : row.labels.Nodup) {label : String} {v : Value}
    (mem : (label, v) ∈ row.cells) : row.get? label = some v := by
  obtain ⟨cells⟩ := row
  induction cells with
  | nil => cases mem
  | cons c cells ih =>
    obtain ⟨fresh, others⟩ := List.nodup_cons.mp distinct
    rcases List.mem_cons.mp mem with rfl | mem
    · simp only [get?, List.find?_cons, beq_self_eq_true, Option.map_some]
    · have unlike : (c.1 == label) = false := by
        rw [beq_eq_false_iff_ne]
        rintro rfl
        exact fresh (List.mem_map.mpr ⟨_, mem, rfl⟩)
      have rest : Row.get? ⟨cells⟩ label = some v := ih others mem
      simp only [get?, List.find?_cons, unlike] at rest ⊢
      exact rest

theorem mem_of_get? {row : Row} {label : String} {v : Value} (found : row.get? label = some v) :
    (label, v) ∈ row.cells := by
  obtain ⟨⟨name, w⟩, first, rfl⟩ := Option.map_eq_some_iff.mp found
  have same : name = label := by simpa using List.find?_some first
  rw [← same]
  exact List.mem_of_find?_eq_some first

/-- Taking a column leaves the others as they are. -/
theorem get?_take {row : Row} {label column : String} (other : column ≠ label) :
    (row.take label).2.get? column = row.get? column := by
  obtain ⟨cells⟩ := row
  induction cells with
  | nil => rfl
  | cons c cells ih =>
    have unlike : (label == column) = false := beq_eq_false_iff_ne.mpr other.symm
    simp only [take, get?, clearFirst] at ih ⊢
    split
    · next here =>
      rw [beq_iff_eq] at here
      simp only [List.find?_cons, here, unlike]
    · simp only [List.find?_cons]
      split
      · rfl
      · exact ih

end Row

/-! ### Fields -/

namespace Field

/-- A field that is written is read back from its value, and from a null when it is not written
because it holds nothing. -/
theorem ofValue?_written {f : Field} (plain : f.type.plain = true) (mapped : f.ignored = false)
    (x : f.type.Carrier) : f.type.ofValue? ((f.written? x).getD .null) = .ok x := by
  obtain ⟨name, column, type, role⟩ := f
  cases role with
  | ignored => cases mapped
  | stored => exact FieldType.ofValue?_toValue plain x
  | sparse =>
    cases type with
    | optional t =>
      cases x with
      | none => rfl
      | some x => exact FieldType.ofValue?_toValue (t := .optional t) plain (some x)
    | scalar k => exact FieldType.ofValue?_toValue (t := .scalar k) plain x
    | borrowed => exact FieldType.ofValue?_toValue (t := .borrowed) plain x
    | duration => exact FieldType.ofValue?_toValue (t := .duration) plain x
    | boxed t => exact FieldType.ofValue?_toValue (t := .boxed t) plain x
    | shared t => exact FieldType.ofValue?_toValue (t := .shared t) plain x
    | listed t => exact FieldType.ofValue?_toValue (t := .listed t) plain x

theorem written?_ignored {f : Field} (ignored : f.ignored = true) (x : f.type.Carrier) :
    f.written? x = none := by
  obtain ⟨name, column, type, role⟩ := f
  cases role with
  | ignored => rfl
  | stored => cases ignored
  | sparse => cases ignored

end Field

/-- The columns that fields are read from and written to. -/
def mappedColumns (fs : List Field) : List String :=
  (fs.filter fun f => !f.ignored).map Field.column

theorem mappedColumns_ignored {f : Field} (ignored : f.ignored = true) (fs : List Field) :
    mappedColumns (f :: fs) = mappedColumns fs := by
  simp only [mappedColumns, List.filter_cons, ignored, Bool.not_true, Bool.false_eq_true, if_false]

theorem mappedColumns_mapped {f : Field} (mapped : f.ignored = false) (fs : List Field) :
    mappedColumns (f :: fs) = f.column :: mappedColumns fs := by
  simp only [mappedColumns, List.filter_cons, mapped, Bool.not_false, if_true, List.map_cons]

namespace Record

/-- Members with what they hold initially in place of those that are left out of the table. -/
def clearMembers : (fs : List Field) → Members fs → Members fs
  | [], _ => ()
  | f :: fs, (x, rest) => (if f.ignored then f.type.initial else x, clearMembers fs rest)

/-- The record as it can be read again: the fields that are left out of the table hold what they
hold initially. -/
def cleared {s : Shape} (r : Record s) : Record s := ⟨clearMembers s.fields r.members⟩

/-- The columns of a row hold what is written for fields, or a null where nothing is. -/
def Holds (row : Row) : (fs : List Field) → Members fs → Prop
  | [], _ => True
  | f :: fs, (x, rest) =>
    (f.ignored = false → (row.get? f.column).getD .null = (f.written? x).getD .null) ∧
      Holds row fs rest

private theorem holds_take {row : Row} {label : String} {fs : List Field} {members : Members fs}
    (other : label ∉ mappedColumns fs) (holds : Holds row fs members) :
    Holds (row.take label).2 fs members := by
  induction fs with
  | nil => trivial
  | cons f fs ih =>
    obtain ⟨x, rest⟩ := members
    obtain ⟨own, others⟩ := holds
    cases ignored : f.ignored with
    | true =>
      rw [mappedColumns_ignored ignored] at other
      exact ⟨fun mapped => absurd (mapped.symm.trans ignored) Bool.false_ne_true, ih other others⟩
    | false =>
      rw [mappedColumns_mapped ignored, List.mem_cons, not_or] at other
      refine ⟨fun _ => ?_, ih other.2 others⟩
      rw [Row.get?_take (Ne.symm other.1)]
      exact own ignored

/-- Fields are read back from a row that holds what is written for them. -/
theorem readMembers_holds (record : String) {row : Row} {fs : List Field} {members : Members fs}
    (distinct : (mappedColumns fs).Nodup)
    (plain : ∀ f ∈ fs, f.ignored = false → f.type.plain = true) (holds : Holds row fs members) :
    readMembers record fs row = .ok (clearMembers fs members) := by
  induction fs generalizing row with
  | nil => rfl
  | cons f fs ih =>
    obtain ⟨x, rest⟩ := members
    obtain ⟨own, others⟩ := holds
    obtain ⟨first, plain⟩ := List.forall_mem_cons.mp plain
    cases ignored : f.ignored with
    | true =>
      rw [mappedColumns_ignored ignored] at distinct
      simp only [readMembers, clearMembers, ignored, if_true, ih distinct plain others, Except.map]
    | false =>
      rw [mappedColumns_mapped ignored] at distinct
      obtain ⟨fresh, distinct⟩ := List.nodup_cons.mp distinct
      have value : f.type.ofValue? ((row.take f.column).1.getD .null) = .ok x :=
        (congrArg f.type.ofValue? (own ignored)).trans
          (f.ofValue?_written (first ignored) ignored x)
      simp only [readMembers, clearMembers, ignored, Bool.false_eq_true, if_false, value,
        ih distinct plain (holds_take fresh others), Except.map]

/-! ### What is written -/

private theorem mem_mappedColumns {fs : List Field} {members : Members fs} {e : String × Value}
    (mem : e ∈ writeMembers fs members) : e.1 ∈ mappedColumns fs := by
  induction fs with
  | nil => cases mem
  | cons f fs ih =>
    obtain ⟨x, rest⟩ := members
    simp only [writeMembers] at mem
    cases ignored : f.ignored with
    | true =>
      rw [Field.written?_ignored ignored] at mem
      rw [mappedColumns_ignored ignored]
      exact ih mem
    | false =>
      rw [mappedColumns_mapped ignored]
      split at mem
      · rcases List.mem_cons.mp mem with rfl | mem
        · exact List.mem_cons_self
        · exact List.mem_cons_of_mem _ (ih mem)
      · exact List.mem_cons_of_mem _ (ih mem)

/-- A row in which everything stands that is written for fields, and nothing else in their
columns, holds what is written for them. -/
private theorem holds_written {row : Row} (labels : row.labels.Nodup) {fs : List Field}
    {members : Members fs} (distinct : (mappedColumns fs).Nodup)
    (there : ∀ e ∈ writeMembers fs members, e ∈ row.cells)
    (only : ∀ e ∈ row.cells, e.1 ∈ mappedColumns fs → e ∈ writeMembers fs members) :
    Holds row fs members := by
  induction fs with
  | nil => trivial
  | cons f fs ih =>
    obtain ⟨x, rest⟩ := members
    simp only [writeMembers] at there only
    cases ignored : f.ignored with
    | true =>
      rw [mappedColumns_ignored ignored] at distinct only
      rw [Field.written?_ignored ignored] at there only
      exact ⟨fun mapped => absurd (mapped.symm.trans ignored) Bool.false_ne_true,
        ih distinct there only⟩
    | false =>
      rw [mappedColumns_mapped ignored] at distinct only
      obtain ⟨fresh, distinct⟩ := List.nodup_cons.mp distinct
      cases written : f.written? x with
      | some v =>
        rw [written] at there only
        obtain ⟨own, others⟩ := List.forall_mem_cons.mp there
        refine ⟨fun _ => by rw [written, Row.get?_of_mem labels own], ih distinct others ?_⟩
        intro e mem mapped
        rcases List.mem_cons.mp (only e mem (List.mem_cons_of_mem _ mapped)) with rfl | mem
        · exact absurd mapped fresh
        · exact mem
      | none =>
        rw [written] at there only
        refine ⟨fun _ => ?_, ih distinct there fun e mem mapped =>
          only e mem (List.mem_cons_of_mem _ mapped)⟩
        rw [written]
        cases found : row.get? f.column with
        | none => rfl
        | some v =>
          -- Only what is written stands in a mapped column, and no other field has this one.
          have mem := only _ (Row.mem_of_get? found) List.mem_cons_self
          exact absurd (mem_mappedColumns mem) fresh

private theorem readId_clearMembers (fs : List Field) (members : Members fs) :
    readId fs (clearMembers fs members) = readId fs members := by
  induction fs with
  | nil => rfl
  | cons f fs ih =>
    obtain ⟨x, rest⟩ := members
    cases ignored : f.ignored with
    | true => simp only [readId, clearMembers, ignored, Bool.not_true, Bool.false_and,
        Bool.false_eq_true, if_false, ih rest]
    | false => simp only [readId, clearMembers, ignored, Bool.false_eq_true, if_false, ih rest]

/-- A record of any shape whose columns are distinct, and none of whose fields is optional twice
over, is read again from every row of distinct labels that holds what is written for it, in any
order and among any columns that the shape does not map: with what they hold initially in the
fields that are left out, with nothing in those that hold nothing, and with its identifier. -/
theorem survives_row {s : Shape} (distinct : (mappedColumns s.fields).Nodup)
    (plain : ∀ f ∈ s.fields, f.ignored = false → f.type.plain = true) (r : Record s) {row : Row}
    (labels : row.labels.Nodup) {more : List (String × Value)}
    (cells : row.cells.Perm (r.fields.entries ++ more))
    (unmapped : ∀ e ∈ more, e.1 ∉ mappedColumns s.fields) :
    ofRow s row = .ok r.cleared ∧ r.cleared.id? = r.id? := by
  have there : ∀ e ∈ writeMembers s.fields r.members, e ∈ row.cells := fun e mem =>
    cells.mem_iff.mpr (List.mem_append_left more mem)
  have only : ∀ e ∈ row.cells, e.1 ∈ mappedColumns s.fields →
      e ∈ writeMembers s.fields r.members := by
    intro e mem mapped
    rcases List.mem_append.mp (cells.mem_iff.mp mem) with written | further
    · exact written
    · exact absurd mapped (unmapped e further)
  have holds := holds_written labels distinct there only
  refine ⟨?_, readId_clearMembers s.fields r.members⟩
  rw [ofRow, readMembers_holds s.name distinct plain holds]
  rfl

end Record

/-- A shape with a renamed field, an optional one, one that is left out of the table, and a list
of texts that may be missing. -/
def patient : Shape :=
  ⟨"Patient", [⟨"id", "id", .scalar .int64, .stored⟩,
    ⟨"nick", "nick_name", .optional (.boxed .borrowed), .sparse⟩,
    ⟨"visits", "visits", .scalar .int32, .ignored⟩,
    ⟨"notes", "remarks", .shared (.listed (.optional (.scalar .varchar))), .stored⟩]⟩

/-- The remarks come before the identifier, and a column of its own has the name of the field that
is left out. -/
theorem patient_survives :
    let r : Record patient := ⟨(7, none, 5, [some "calm", none], ())⟩
    let row : Row := ⟨[("visits", .integer 9),
      ("remarks", .list (some [.text "calm", .nullOf .varchar]) (.nullOf .varchar)),
      ("id", .integer 7)]⟩
    Record.ofRow patient row = .ok ⟨(7, none, 0, [some "calm", none], ())⟩ ∧
      r.cleared.id? = some 7 := by
  intro r row
  let more : List (String × Value) := [("visits", .integer 9)]
  have order : row.cells.Perm (r.fields.entries ++ more) :=
    List.reverse_perm (r.fields.entries ++ more)
  exact Record.survives_row (by decide) (by decide) r (by decide) order (by decide)

end TableAccess

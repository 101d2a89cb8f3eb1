import Mathlib.Data.List.Induction
import Mathlib.Data.List.Nodup
import TableAccess.Proofs.Statement.Assignments

/-!
Columns that are set one after another.

Setting a column that is there leaves all columns where they are, and setting another one puts it
behind them. So no column is ever there twice, and what is left of any number of settings is an
ordered map: the columns in the order in which they were set first, each with the value that it was
set to last. The lists of columns in the statements that write them are therefore without
repetitions.
-/

set_option autoImplicit false
set_option relaxedAutoImplicit false

namespace TableAccess

namespace Fields

variable {f g : Fields} {sets : List (String × Value)} {a b column : String} {v w : Value}

/-- The columns of values set one after another. -/
def ofSets (sets : List (String × Value)) : Fields := sets.foldl (fun f e => f.set e.1 e.2) empty

/-- The value is the one that the column is set to last. -/
def LastSet (sets : List (String × Value)) (column : String) (v : Value) : Prop :=
  ∃ before after, sets = before ++ (column, v) :: after ∧ column ∉ after.map Prod.fst

/-- The first setting of the one column is in front of the first one of the other column. -/
def FirstBefore (sets : List (String × Value)) (a b : String) : Prop :=
  (sets.map Prod.fst).idxOf a < (sets.map Prod.fst).idxOf b

/-- The fields are the ordered map of the settings: they have the columns that are set, each once,
in the order in which they are set first, with the values that they are set to last. -/
structure Follows (f : Fields) (sets : List (String × Value)) : Prop where
  distinct : f.columns.Nodup
  same : ∀ column, column ∈ f.columns ↔ column ∈ sets.map Prod.fst
  ordered : f.columns.Pairwise (FirstBefore sets)
  latest : ∀ column v, (column, v) ∈ f.entries ↔ LastSet sets column v

/-! ### One setting -/

private theorem names_setEntry (a : String) (v : Value) (entries : List (String × Value)) :
    (setEntry a v entries).map Prod.fst =
      if a ∈ entries.map Prod.fst then entries.map Prod.fst else entries.map Prod.fst ++ [a] := by
  induction entries with
  | nil => rfl
  | cons e entries ih =>
    simp only [setEntry, List.map_cons, List.mem_cons]
    by_cases here : e.1 = a
    · rw [if_pos (beq_iff_eq.mpr here), if_pos (.inl here.symm), List.map_cons]
    · rw [if_neg (mt beq_iff_eq.mp here), List.map_cons, ih]
      by_cases further : a ∈ entries.map Prod.fst
      · rw [if_pos further, if_pos (.inr further)]
      · rw [if_neg further, if_neg (not_or.mpr ⟨Ne.symm here, further⟩), List.cons_append]

theorem columns_set_of_mem (there : a ∈ f.columns) : (f.set a v).columns = f.columns :=
  (names_setEntry a v f.entries).trans (if_pos there)

theorem columns_set_of_not_mem (absent : a ∉ f.columns) :
    (f.set a v).columns = f.columns ++ [a] :=
  (names_setEntry a v f.entries).trans (if_neg absent)

theorem mem_columns_set : b ∈ (f.set a v).columns ↔ b ∈ f.columns ∨ b = a := by
  by_cases there : a ∈ f.columns
  · rw [columns_set_of_mem there]
    exact ⟨.inl, fun either => either.elim id fun same => same ▸ there⟩
  · rw [columns_set_of_not_mem there, List.mem_append, List.mem_singleton]

/-- No column gets there twice. -/
theorem nodup_columns_set (distinct : f.columns.Nodup) : (f.set a v).columns.Nodup := by
  by_cases there : a ∈ f.columns
  · rw [columns_set_of_mem there]
    exact distinct
  · rw [columns_set_of_not_mem there]
    exact List.nodup_append_comm.mp (List.nodup_cons.mpr ⟨there, distinct⟩)

/-- Where no column is there twice, setting one changes its value only. -/
theorem mem_set_iff (distinct : f.columns.Nodup) :
    (column, w) ∈ (f.set a v).entries ↔
      if column = a then w = v else (column, w) ∈ f.entries := by
  obtain ⟨entries⟩ := f
  induction entries with
  | nil =>
    by_cases same : column = a <;> simp [set, setEntry, same]
  | cons e entries ih =>
    obtain ⟨fresh, others⟩ := List.nodup_cons.mp distinct
    simp only [set, setEntry] at ih ⊢
    by_cases here : e.1 = a
    · subst here
      rw [if_pos (beq_self_eq_true _)]
      by_cases same : column = e.1
      · subst same
        have absent (u : Value) : (e.1, u) ∉ entries := fun member =>
          fresh (List.mem_map.mpr ⟨_, member, rfl⟩)
        simp [absent]
      · have unlike : (column, w) ≠ e := fun equal => same (congrArg Prod.fst equal)
        simp [same, unlike]
    · rw [if_neg (mt beq_iff_eq.mp here), List.mem_cons, ih others]
      by_cases same : column = a
      · subst same
        have unlike : (column, w) ≠ e := fun equal => here (congrArg Prod.fst equal).symm
        simp [unlike]
      · simp [same]

private theorem setEntry_comm (other : a ≠ b) (v w : Value) {entries : List (String × Value)}
    (there : a ∈ entries.map Prod.fst ∨ b ∈ entries.map Prod.fst) :
    setEntry b w (setEntry a v entries) = setEntry a v (setEntry b w entries) := by
  induction entries with
  | nil => simp at there
  | cons e entries ih =>
    by_cases first : e.1 = a
    · have second : ¬ e.1 = b := fun equal => other (first.symm.trans equal)
      simp [setEntry, first, other]
    · by_cases second : e.1 = b
      · simp [setEntry, second, other.symm]
      · have further : a ∈ entries.map Prod.fst ∨ b ∈ entries.map Prod.fst := by
          simpa [Ne.symm first, Ne.symm second] using there
        simp only [setEntry, beq_iff_eq, first, second, if_false, ih further]

/-- Two different columns can be set in either order exactly if one of them is there: of two new
ones the first to be set comes first. -/
theorem set_comm_iff (other : a ≠ b) :
    (f.set a v).set b w = (f.set b w).set a v ↔ a ∈ f.columns ∨ b ∈ f.columns := by
  constructor
  · intro same
    by_contra neither
    obtain ⟨first, second⟩ := not_or.mp neither
    have names := congrArg columns same
    have a_new : a ∉ f.columns ++ [b] := by simp [first, other]
    have b_new : b ∉ f.columns ++ [a] := by simp [second, other.symm]
    rw [← columns_set_of_not_mem (v := w) second] at a_new
    rw [← columns_set_of_not_mem (v := v) first] at b_new
    rw [columns_set_of_not_mem b_new, columns_set_of_not_mem a_new, columns_set_of_not_mem first,
      columns_set_of_not_mem second, List.append_assoc, List.append_assoc] at names
    cases List.append_cancel_left names
    exact other rfl
  · intro there
    simp only [set, setEntry_comm other v w there]

/-! ### Settings one after another -/

theorem ofSets_append_singleton (sets : List (String × Value)) (a : String) (v : Value) :
    ofSets (sets ++ [(a, v)]) = (ofSets sets).set a v := by
  rw [ofSets, List.foldl_append]
  rfl

theorem lastSet_append_singleton :
    LastSet (sets ++ [(a, v)]) column w ↔ if column = a then w = v else LastSet sets column w := by
  constructor
  · rintro ⟨before, after, parts, last⟩
    rcases List.eq_nil_or_concat after with rfl | ⟨after, e, rfl⟩
    · obtain ⟨-, ends⟩ := List.append_inj' parts rfl
      cases ends
      rw [if_pos rfl]
    · rw [List.concat_eq_append] at parts last
      rw [← List.cons_append, ← List.append_assoc] at parts
      obtain ⟨rfl, ends⟩ := List.append_inj' parts rfl
      cases ends
      rw [List.map_append, List.mem_append, not_or] at last
      have unlike : column ≠ a := fun same => last.2 (List.mem_singleton.mpr same)
      rw [if_neg unlike]
      exact ⟨before, after, rfl, last.1⟩
  · intro latest
    by_cases same : column = a
    · rw [if_pos same] at latest
      rw [same, latest]
      exact ⟨sets, [], rfl, List.not_mem_nil⟩
    · rw [if_neg same] at latest
      obtain ⟨before, after, rfl, last⟩ := latest
      refine ⟨before, after ++ [(a, v)], by rw [List.append_assoc, List.cons_append], ?_⟩
      rw [List.map_append, List.mem_append, not_or]
      exact ⟨last, fun member => same (List.mem_singleton.mp member)⟩

/-- Columns that are set keep their order when more are set. -/
theorem FirstBefore.append (before : FirstBefore sets a b) (first : a ∈ sets.map Prod.fst)
    (second : b ∈ sets.map Prod.fst) (more : List (String × Value)) :
    FirstBefore (sets ++ more) a b := by
  rw [FirstBefore, List.map_append, List.idxOf_append_of_mem first,
    List.idxOf_append_of_mem second]
  exact before

/-- A new column comes behind all those that are set. -/
theorem firstBefore_new (there : b ∈ sets.map Prod.fst) (new : a ∉ sets.map Prod.fst) (v : Value) :
    FirstBefore (sets ++ [(a, v)]) b a := by
  rw [FirstBefore, List.map_append, List.idxOf_append_of_mem there,
    List.idxOf_append_of_notMem new]
  exact Nat.lt_add_right _ (List.idxOf_lt_length_of_mem there)

/-- One more setting: a column that is there stays where it was first set, and a new one is behind
all others. -/
theorem Follows.set (h : f.Follows sets) (a : String) (v : Value) :
    (f.set a v).Follows (sets ++ [(a, v)]) := by
  have kept : f.columns.Pairwise (FirstBefore (sets ++ [(a, v)])) := by
    refine h.ordered.imp_of_mem fun {b c} first second before => ?_
    exact before.append ((h.same b).mp first) ((h.same c).mp second) _
  refine ⟨nodup_columns_set h.distinct, fun b => ?same, ?ordered, fun b w => ?latest⟩
  case same =>
    rw [mem_columns_set, h.same, List.map_append, List.mem_append, List.map_singleton,
      List.mem_singleton]
  case ordered =>
    by_cases there : a ∈ f.columns
    · rw [columns_set_of_mem there]
      exact kept
    · rw [columns_set_of_not_mem there, List.pairwise_append]
      refine ⟨kept, List.pairwise_singleton _ _, fun b before c last => ?_⟩
      rw [List.mem_singleton.mp last]
      exact firstBefore_new ((h.same b).mp before) (mt (h.same a).mpr there) v
  case latest =>
    rw [mem_set_iff h.distinct, lastSet_append_singleton, h.latest]

theorem follows_empty : empty.Follows [] := by
  refine ⟨List.nodup_nil, fun _ => Iff.rfl, List.Pairwise.nil, fun column v => ?_⟩
  constructor
  · exact fun member => nomatch member
  · rintro ⟨before, after, parts, -⟩
    cases before <;> cases parts

/-- Any number of settings, from the first to the last. -/
theorem follows_ofSets (sets : List (String × Value)) : (ofSets sets).Follows sets := by
  induction sets using List.reverseRecOn with
  | nil => exact follows_empty
  | append_singleton sets e ih =>
    obtain ⟨a, v⟩ := e
    rw [ofSets_append_singleton]
    exact ih.set a v

/-- There is only one ordered map of some settings. -/
theorem Follows.unique (h : f.Follows sets) (h' : g.Follows sets) : f = g := by
  obtain ⟨entries⟩ := f
  obtain ⟨entries'⟩ := g
  have members (e : String × Value) : e ∈ entries ↔ e ∈ entries' :=
    (h.latest e.1 e.2).trans (h'.latest e.1 e.2).symm
  have perm : entries.Perm entries' :=
    (List.perm_ext_iff_of_nodup h.distinct.of_map h'.distinct.of_map).mpr members
  have sorted := List.pairwise_map.mp h.ordered
  have sorted' := List.pairwise_map.mp h'.ordered
  have unlike (e e' : String × Value) (_ : e ∈ entries) (_ : e' ∈ entries')
      (before : FirstBefore sets e.1 e'.1) (after : FirstBefore sets e'.1 e.1) : e = e' :=
    absurd before (Nat.lt_asymm after)
  have same : entries = entries' := perm.eq_of_pairwise unlike sorted sorted'
  rw [same]

/-- What settings make is their ordered map and nothing else. -/
theorem eq_ofSets_iff : f = ofSets sets ↔ f.Follows sets := by
  constructor
  · rintro rfl
    exact follows_ofSets sets
  · intro follows
    exact follows.unique (follows_ofSets sets)

end Fields

namespace Writing

open Lexeme

/-- The columns that an insertion lists behind its table. -/
def listed? (ls : List Lexeme) : Option (List String) := do
  let (columns, _) ← enclosed? ls
  (items columns).mapM column?

/-- The columns that an update assigns behind its table. -/
def assigned? (ls : List Lexeme) : Option (List String) := do
  let ls ← after? "SET" ls
  let entries ← (items (ls.takeWhile (!isWord ·))).mapM assignment?
  return entries.map Prod.fst

theorem listed?_insert (t : Table) (fields : Fields) (o : Clauses) (c : WriteContext) :
    ∃ behind : String,
      ((Statement.insert t fields o).write c).1 =
        "INSERT INTO " ++ Statement.tableText t ++ behind ∧
      listed? (read behind.toList) = some fields.columns := by
  obtain ⟨behind, text, -, lexemes⟩ := Statement.insert_behind_table t fields o c
  refine ⟨behind, text, ?_⟩
  rw [lexemes, listed?]
  simp only [enclosed?_columns, Option.bind_eq_bind, Option.bind_some, mapM_items_columns]
  rfl

theorem assigned?_update (d : Dialect) (t : Table) (fields : Fields) (o : Clauses)
    (c : WriteContext) : ∃ behind : String,
      ((Statement.update d t fields o).write c).1 =
        "UPDATE " ++ Statement.tableText t ++ behind ∧
      assigned? (read behind.toList) = some fields.columns := by
  obtain ⟨behind, keyword, rest, text, -, -, lexemes⟩ :=
    Statement.update_behind_table d t fields o c
  refine ⟨behind, text, ?_⟩
  rw [lexemes, assigned?]
  simp only [after?, if_true, Option.bind_eq_bind, Option.bind_some, takeWhile_assignments,
    mapM_items_assignments, Option.pure_def, Option.some_inj]
  exact List.map_fst_zip (by simp)

end Writing

namespace Fields

open Lexeme (read)
open Statement (insert update tableText)
open Writing (listed? assigned?)

/-- Setting columns makes an ordered map: what any number of settings makes is the one list of
fields with the columns that are set, each once, in the order in which they are set first, with the
values that they are set to last. Two different columns can then be set in either order exactly if
one of them is there. An insertion and an update list these columns behind their table, whatever
its name, so they name none of them twice. -/
theorem settings_make_ordered_map (sets : List (String × Value)) :
    (∀ f : Fields, f = ofSets sets ↔ f.Follows sets) ∧
    (∀ (a b : String) (v w : Value), a ≠ b →
      (((ofSets sets).set a v).set b w = ((ofSets sets).set b w).set a v ↔
        a ∈ sets.map Prod.fst ∨ b ∈ sets.map Prod.fst)) ∧
    let written := (ofSets sets).columns
    written.Nodup ∧
      ∀ (d : Dialect) (t : Table) (o : Clauses) (c : WriteContext),
        (∃ behind : String,
          ((insert t (ofSets sets) o).write c).1 = "INSERT INTO " ++ tableText t ++ behind ∧
          listed? (read behind.toList) = some written) ∧
        ∃ behind : String,
          ((update d t (ofSets sets) o).write c).1 = "UPDATE " ++ tableText t ++ behind ∧
          assigned? (read behind.toList) = some written := by
  have follows := follows_ofSets sets
  refine ⟨fun f => eq_ofSets_iff, ?commute, follows.distinct, ?written⟩
  case commute =>
    intro a b v w other
    rw [set_comm_iff other, follows.same a, follows.same b]
  case written =>
    intro d t o c
    exact ⟨Writing.listed?_insert t _ o c, Writing.assigned?_update d t _ o c⟩

/-- Columns that are set again and again, with quotes, commas and places in their names. -/
def repeatedSettings : List (String × Value) :=
  [("b", .text "$1"), ("a\", \"b", .null), ("b", .integer 2), ("", .text "b"),
    ("a\", \"b", .integer 4), ("b", .null)]

theorem repeated_settings_make_ordered_map :
    Follows ⟨[("b", .null), ("a\", \"b", .integer 4), ("", .text "b")]⟩ repeatedSettings ∧
    "b" ≠ "c" ∧
    ((ofSets repeatedSettings).set "b" (.integer 5)).set "c" (.integer 6) =
      ((ofSets repeatedSettings).set "c" (.integer 6)).set "b" (.integer 5) ∧
    ∃ behind : String,
      ((update .generic ⟨"a b", "\""⟩ (ofSets repeatedSettings) {}).write .inline).1 =
        "UPDATE " ++ tableText ⟨"a b", "\""⟩ ++ behind ∧
      assigned? (read behind.toList) = some ["b", "a\", \"b", ""] := by
  obtain ⟨map, commute, -, statements⟩ := settings_make_ordered_map repeatedSettings
  have other : "b" ≠ "c" := by decide
  have there : "b" ∈ repeatedSettings.map Prod.fst := by decide
  exact ⟨(map _).mp rfl, other, (commute "b" "c" _ _ other).mpr (.inl there),
    (statements .generic ⟨"a b", "\""⟩ {} .inline).2⟩

end Fields

end TableAccess

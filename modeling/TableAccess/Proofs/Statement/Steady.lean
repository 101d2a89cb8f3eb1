import TableAccess.Proofs.Predicate.Inline
import TableAccess.Repository.Basic

/-!
Parts of statements that bind nothing.

A listing is made of such parts, its filter included, so it has no parameters. What it would
search for does not matter to it.
-/

set_option autoImplicit false
set_option relaxedAutoImplicit false

namespace TableAccess

/-! ### Parts -/

namespace Clause

variable {a b : Clause}

theorem steady_text (s : String) : Steady (text s).write := .const s

theorem steady_column (name : String) : Steady (column name).write := fun _ _ => rfl

theorem steady_append (first : Steady a.write) (last : Steady b.write) : Steady (a ++ b).write :=
  first.both last (· ++ ·)

private theorem steady_writeAll {parts : List Clause} (h : ∀ a ∈ parts, Steady a.write) :
    Steady (writeAll parts) := by
  induction parts with
  | nil => exact .const []
  | cons a parts ih =>
    obtain ⟨first, others⟩ := List.forall_mem_cons.mp h
    exact first.both (ih others) List.cons

theorem steady_joined (separator : String) {parts : List Clause}
    (h : ∀ a ∈ parts, Steady a.write) : Steady (joined separator parts).write :=
  (steady_writeAll h).map (Text.joined separator)

/-- A statement of a part that binds nothing has no parameters. -/
theorem params_query (h : Steady a.write) : a.query.params = [] := by
  have written := h .inline rfl
  rw [query, written]
  rfl

end Clause

namespace Statement

open Clause (text column joined steady_text steady_column steady_append steady_joined)

variable {p : Predicate}

theorem steady_keyword (word : String) (h : Steady p.write) : Steady (keyword word p).write :=
  h.map (Option.map (word ++ ·))

theorem steady_optional (h : Steady p.write) : Steady (optional p).write := h.map (·.getD "")

theorem steady_withinRegion (region : Region) (h : Steady p.write) :
    Steady (withinRegion region p).write := by
  intro c inline
  have written := h { c with region := region } inline
  have literal := h { WriteContext.literals c.region with region := region } rfl
  simp only [withinRegion, written, literal]

theorem steady_provided (wanted : Bool) {a : Clause} (h : Steady a.write) :
    Steady (provided wanted a).write :=
  h.map fun s => if wanted then some s else none

theorem steady_orderList (order : Option Ordering) : Steady (orderList order).write := by
  refine steady_withinRegion _ (steady_provided _ (steady_joined _ ?_))
  intro entry mem
  obtain ⟨⟨name, direction⟩, -, rfl⟩ := List.mem_map.mp mem
  exact steady_append (steady_column name) (steady_text _)

/-! ### Listings -/

variable (d : Dialect) (t : Table) (words columns : List String) (o : Clauses)

/-- A listing does not depend on words and columns. -/
theorem search_listing : search d t words columns o .listing = search d t [] [] o .listing := rfl

private theorem steady_listed (filter : Option Filter) :
    Steady (searchCondition d filter .listing [] []).write := by
  cases filter with
  | none => exact .const none
  | some f => exact steady_withinRegion .condition (Predicate.steady_filter d f)

private theorem steady_listedOrder (order : Option Ordering) :
    Steady (searchOrder order .listing [] []).write :=
  (steady_orderList order).map id

/-- A listing binds nothing. -/
theorem steady_listing : Steady (search d t words columns o .listing).write := by
  rw [search_listing]
  have condition := steady_optional (steady_keyword " WHERE " (steady_listed d o.filter))
  have order := steady_optional (steady_keyword " ORDER BY " (steady_listedOrder o.order))
  exact steady_append (steady_append (steady_append (steady_text _) condition) order)
    (steady_text _)

end Statement

end TableAccess

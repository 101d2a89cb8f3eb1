import TableAccess.Proofs.Predicate.Literals
import TableAccess.Proofs.Predicate.Parts
import TableAccess.Statement.Predicate

/-!
Filters as formulas: what each condition compares is written down, in the mode of a statement
and with its parameters numbered, and what is joined stays a tree.

A part of a formula is live when something of it can be written. Only live parts count.
-/

set_option autoImplicit false
set_option relaxedAutoImplicit false

namespace TableAccess

/-- A column compared with an operand. -/
structure Atom where
  column : String
  op : Operator
  operand : String

namespace Atom

def words (a : Atom) : List String := a.column :: (a.op.words ++ [a.operand])

def text (a : Atom) : String := a.column ++ " " ++ a.op.token ++ " " ++ a.operand

end Atom

/-- A formula: an atom or the place of one that can not be written, a filter, or a group. -/
inductive Formula
  | leaf (atom : Option Atom)
  | all (parts : List Formula)
  | group (op : Operator) (parts : List Formula)

namespace Formula

mutual
/-- Something of the formula can be written. -/
def live : Formula → Bool
  | .leaf a => a.isSome
  | .all parts => anyLive parts
  | .group _ parts => anyLive parts

def anyLive : List Formula → Bool
  | [] => false
  | p :: ps => live p || anyLive ps
end

mutual
/-- Whether a live formula holds: all live parts of a filter, and those of a group as its operator
joins them. -/
def holds (φ : Formula) (ρ : Reading.Assignment) : Bool :=
  match φ with
  | .leaf a => a.any fun a => ρ a.words
  | .all parts => Operator.joins .and (liveValues parts ρ)
  | .group op parts => op.joins (liveValues parts ρ)

/-- Which of the live formulas hold. -/
def liveValues (φs : List Formula) (ρ : Reading.Assignment) : List Bool :=
  match φs with
  | [] => []
  | p :: ps => if live p then holds p ρ :: liveValues ps ρ else liveValues ps ρ
end

end Formula

namespace Filter

/-- A comparison with a value, which is bound or has a literal, or can not be written. -/
def comparison (column : String) (op : Operator) (v : Value) (c : WriteContext) :
    Formula × WriteContext :=
  let (operand, after) := (Clause.value .generic v).write c
  let shown := ((Clause.column column).write after).1
  (.leaf (if v.hasText c.parameterized then some ⟨shown, op, operand⟩ else none), after)

/-- A comparison with a value for equality, with a null for nullness. -/
def equality (column : String) (v : Value) (c : WriteContext) : Formula × WriteContext :=
  if v.isNull then (.leaf (some ⟨((Clause.column column).write c).1, .is, "null"⟩), c)
  else comparison column .equals v c

/-- Comparisons with values, one by one. -/
def equalities (column : String) : List Value → WriteContext → List Formula × WriteContext
  | [], c => ([], c)
  | v :: vs, c =>
    let (φ, c) := equality column v c
    let (φs, c) := equalities column vs c
    (φ :: φs, c)

def alternatives (column : String) (vs : List Value) (c : WriteContext) : Formula × WriteContext :=
  let (φs, c) := equalities column vs c
  (.group .or φs, c)

def conditionFormula (column : String) : Condition → WriteContext → Formula × WriteContext
  | .value (.list (some vs) _) => alternatives column vs
  | .anyOf vs => alternatives column vs
  | .value v => equality column v
  | .compare op v => comparison column op v

/-- The formulas of conditions. Those that are absent can not be written. -/
def columnFormulas :
    List (String × Option Condition) → WriteContext → List Formula × WriteContext
  | [], c => ([], c)
  | (_, none) :: cs, c =>
    let (φs, c) := columnFormulas cs c
    (.leaf none :: φs, c)
  | (column, some k) :: cs, c =>
    let (φ, c) := conditionFormula column k c
    let (φs, c) := columnFormulas cs c
    (φ :: φs, c)

mutual
/-- The formula of a filter, and the context after it. -/
def formula : Filter → WriteContext → Formula × WriteContext
  | .mk columns groups, c =>
    let (φs, c) := columnFormulas columns c
    let (ψs, c) := groupFormulas groups c
    (.all (φs ++ ψs), c)

def groupFormulas : List (Operator × List Filter) → WriteContext → List Formula × WriteContext
  | [], c => ([], c)
  | (op, members) :: groups, c =>
    let (φs, c) := memberFormulas members c
    let (ψs, c) := groupFormulas groups c
    (.group op φs :: ψs, c)

def memberFormulas : List Filter → WriteContext → List Formula × WriteContext
  | [], c => ([], c)
  | f :: fs, c =>
    let (φ, c) := formula f c
    let (φs, c) := memberFormulas fs c
    (φ :: φs, c)
end

mutual
/-- All columns are names, and all groups are joined by connectives. -/
def isPlain : Filter → Bool
  | .mk columns groups => columns.all (fun p => Reading.isName p.1) && plainGroups groups

/-- The operators of the groups are connectives, and their members are plain. -/
def plainGroups : List (Operator × List Filter) → Bool
  | [] => true
  | (op, members) :: groups =>
    (op == .and || op == .or) && plainMembers members && plainGroups groups

def plainMembers : List Filter → Bool
  | [] => true
  | f :: fs => isPlain f && plainMembers fs
end

end Filter

end TableAccess

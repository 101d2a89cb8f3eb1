import TableAccess.Schema.Token

/-!
Tokens as trees: what stands between two brackets is one tree. Angle brackets make no trees, since
they are also signs of their own; they are matched where a list is taken apart.
-/

set_option autoImplicit false
set_option relaxedAutoImplicit false

namespace TableAccess.Schema

/-- A token that is no bracket, or what stands between two brackets. -/
inductive Tree
  | word (s : String)
  | sign (c : Char)
  | literal (source : List Char)
  | group (opening : Char) (inner : List Tree)

namespace Tree

def closingOf (opening : Char) : Char :=
  if opening = '(' then ')' else if opening = '[' then ']' else '\x7d'

/-- The trees of tokens after some trees, which come last first, within open brackets, the
innermost first and each with the trees before it. -/
def build : List (Char × List Tree) → List Tree → List Token → Option (List Tree)
  | [], trees, [] => some trees.reverse
  | _ :: _, _, [] => none
  | outer, trees, .word s :: rest => build outer (.word s :: trees) rest
  | outer, trees, .sign c :: rest => build outer (.sign c :: trees) rest
  | outer, trees, .literal s :: rest => build outer (.literal s :: trees) rest
  | outer, trees, .opening c :: rest => build ((c, trees) :: outer) [] rest
  | [], _, .closing _ :: _ => none
  | (c, before) :: outer, trees, .closing d :: rest =>
    if d = closingOf c then build outer (.group c trees.reverse :: before) rest else none

/-- The trees of a text, if its brackets match. -/
def ofText? (s : String) : Option (List Tree) := build [] [] (Token.lex s)

mutual
def words : Tree → List String
  | .word s => [s]
  | .sign c => [c.toString]
  | .literal s => [String.ofList s]
  | .group c inner => c.toString :: allWords inner ++ [(closingOf c).toString]

def allWords : List Tree → List String
  | [] => []
  | t :: ts => words t ++ allWords ts
end

/-! ### Angle brackets -/

def isSign (c : Char) : Tree → Bool
  | .sign d => c == d
  | _ => false

/-- How many angle brackets are open after a tree. The second sign of an arrow closes none. -/
def nextDepth (depth : Nat) (arrow : Bool) (t : Tree) : Nat :=
  if t.isSign '<' then depth + 1 else if t.isSign '>' && !arrow then depth - 1 else depth

/-- What stands before the first tree outside angle brackets that satisfies `p`, and the trees
from there. -/
def breakAt (p : Tree → Bool) (depth : Nat) (arrow : Bool) : List Tree → List Tree × List Tree
  | [] => ([], [])
  | t :: ts =>
    if depth = 0 ∧ p t then ([], t :: ts)
    else
      let (before, rest) := breakAt p (nextDepth depth arrow t) (t.isSign '-') ts
      (t :: before, rest)

/-- What stands before the angle bracket that closes `depth` open ones, and what follows it. -/
def closeAngle (depth : Nat) (arrow : Bool) : List Tree → List Tree × List Tree
  | [] => ([], [])
  | t :: ts =>
    if nextDepth depth arrow t = 0 then ([], ts)
    else
      let (inner, rest) := closeAngle (nextDepth depth arrow t) (t.isSign '-') ts
      (t :: inner, rest)

/-- The parts between the commas outside angle brackets, after the trees of a part, which come
last first. Each comes with whether a comma follows it. -/
def partsFrom (part : List Tree) (depth : Nat) (arrow : Bool) :
    List Tree → List (List Tree × Bool)
  | [] => if part.isEmpty then [] else [(part.reverse, false)]
  | t :: ts =>
    if depth = 0 ∧ t.isSign ',' then (part.reverse, true) :: partsFrom [] 0 false ts
    else partsFrom (t :: part) (nextDepth depth arrow t) (t.isSign '-') ts

/-- The parts between the commas outside angle brackets, each with whether a comma follows it. -/
def parts (ts : List Tree) : List (List Tree × Bool) := partsFrom [] 0 false ts

end Tree

end TableAccess.Schema

import TableAccess.Schema.Tree

/-!
Declarations of record types: a name, generic parameters, a clause about these, and fields with
their attributes, names and types.
-/

set_option autoImplicit false
set_option relaxedAutoImplicit false

namespace TableAccess.Schema

/-- What a generic parameter stands for. -/
inductive GenericKind
  | lifetime
  | type
  | constant
  deriving DecidableEq, Repr

/-- A generic parameter: its attributes, its kind, its name, its bounds or its type, and whether a
comma follows it. What it defaults to is left out. -/
structure Generic where
  attributes : List (List Tree)
  kind : GenericKind
  name : String
  bounds : List Tree
  comma : Bool

/-- A named field. -/
structure DeclaredField where
  attributes : List (List Tree)
  name : String
  type : List Tree

/-- The fields of a record type: with names, or a number of them without. -/
inductive DeclaredFields
  | named (fields : List DeclaredField)
  | positional (count : Nat)

/-- A declaration of a record type. -/
structure Declaration where
  name : String
  generics : List Generic
  clause : List Tree
  fields : DeclaredFields

namespace Declaration

/-- Attributes in front of trees, and the trees after them. -/
def readAttributes : List Tree → List (List Tree) × List Tree
  | .sign '#' :: .group '[' inner :: rest =>
    let (attributes, rest) := readAttributes rest
    (inner :: attributes, rest)
  | rest => ([], rest)

/-- Trees without the visibility in front of them. -/
def skipVisibility : List Tree → List Tree
  | .word "pub" :: .group '(' _ :: rest => rest
  | .word "pub" :: rest => rest
  | rest => rest

/-- Bounds after their colon, without what a parameter defaults to. -/
def readBounds (ts : List Tree) : List Tree :=
  match (Tree.breakAt (Tree.isSign '=') 0 false ts).1 with
  | .sign ':' :: bounds => bounds
  | _ => []

def readGeneric (part : List Tree × Bool) : Option Generic :=
  match readAttributes part.1 with
  | (attributes, .sign '\'' :: .word name :: rest) =>
    some ⟨attributes, .lifetime, name, readBounds rest, part.2⟩
  | (attributes, .word "const" :: .word name :: rest) =>
    some ⟨attributes, .constant, name, readBounds rest, part.2⟩
  | (attributes, .word name :: rest) =>
    some ⟨attributes, .type, name, readBounds rest, part.2⟩
  | _ => none

/-- The generic parameters after a name, and what follows them. -/
def readGenerics : List Tree → Option (List Generic × List Tree)
  | .sign '<' :: ts =>
    let (inner, rest) := Tree.closeAngle 1 false ts
    ((Tree.parts inner).mapM readGeneric).map fun generics => (generics, rest)
  | ts => some ([], ts)

def endsClause : Tree → Bool
  | .group '\x7b' _ => true
  | .sign ';' => true
  | _ => false

/-- The clause about generic parameters, and what follows it. -/
def readClause : List Tree → List Tree × List Tree
  | .word "where" :: ts => Tree.breakAt endsClause 0 false ts
  | ts => ([], ts)

def readField (part : List Tree × Bool) : Option DeclaredField :=
  let (attributes, rest) := readAttributes part.1
  match skipVisibility rest with
  | .word name :: .sign ':' :: type => some ⟨attributes, name, type⟩
  | _ => none

/-- What follows the generic parameters: the clause about them, and the fields. -/
def readBody : List Tree → Option (List Tree × DeclaredFields)
  | .group '(' fields :: ts => some ((readClause ts).1, .positional (Tree.parts fields).length)
  | ts =>
    match readClause ts with
    | (clause, .group '\x7b' fields :: _) =>
      ((Tree.parts fields).mapM readField).map fun fields => (clause, .named fields)
    | (clause, .sign ';' :: _) => some (clause, .positional 0)
    | _ => none

def ofTrees? (ts : List Tree) : Option Declaration :=
  match skipVisibility (readAttributes ts).2 with
  | .word "struct" :: .word name :: rest => do
    let (generics, rest) ← readGenerics rest
    let (clause, fields) ← readBody rest
    return ⟨name, generics, clause, fields⟩
  | _ => none

def read? (s : String) : Option Declaration := (Tree.ofText? s).bind ofTrees?

end Declaration

end TableAccess.Schema

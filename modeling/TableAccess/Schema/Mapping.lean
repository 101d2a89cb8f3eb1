import TableAccess.Schema.Declaration

/-!
How the fields of a declaration are mapped to columns. The attributes of a field may rename its
column or leave the field out of the table.
-/

set_option autoImplicit false
set_option relaxedAutoImplicit false

namespace TableAccess.Schema

/-- Why a declaration has no mapping. Some of the reasons can be that the attribute ends. -/
inductive MappingError
  | positional
  | unsupported
  | noArguments
  | noParentheses
  | noEquals
  | noComma
  | noText (ended : Bool)
  | noWord (ended : Bool)
  | noItem
  | literal
  | stray
  deriving DecidableEq, Repr

/-- A text about something that was expected, also when an attribute ends before it. -/
def expectedText (ended : Bool) (s : String) : String :=
  if ended then "unexpected end of input, " ++ s else s

/-- The text of the error that a declaration has no mapping. -/
def MappingError.message : MappingError → String
  | .positional => "Entity can only be derived on structs with named fields"
  | .unsupported => "unsupported postgrape attribute, use `name = \"...\"` or `ignore`"
  | .noArguments => "expected attribute arguments in parentheses: #[postgrape(...)]"
  | .noParentheses => "expected parentheses: #[postgrape(...)]"
  | .noEquals => "expected `=`"
  | .noComma => "expected `,`"
  | .noText ended => expectedText ended "expected string literal"
  | .noWord ended => expectedText ended "expected ident"
  | .noItem => expectedText true "expected nested attribute"
  | .literal => "unexpected literal in nested attribute, expected ident"
  | .stray => "unexpected token in nested attribute, expected ident"

/-- The name of the attributes that say how a field is mapped. -/
def attributeName : String := "postgrape"

/-- What the attributes of a field say. -/
structure Marks where
  column : String
  ignored : Bool
  deriving DecidableEq, Repr

namespace Marks

/-- Why the rest of a path of words is no item. -/
def explainRest : List Tree → MappingError
  | .sign ':' :: .sign ':' :: .word _ :: rest => explainRest rest
  | [.sign ':', .sign ':'] => .noWord true
  | .sign ':' :: .sign ':' :: _ => .noWord false
  | _ => .unsupported

/-- Why trees do not start with an item that is supported. -/
def explainFirst : List Tree → MappingError
  | [] => .noItem
  | .word _ :: rest => explainRest rest
  | .literal _ :: _ => .literal
  | .sign '-' :: .literal (c :: _) :: _ => if Text.isDigit c then .literal else .stray
  | _ => .stray

/-- Why trees do not start with an item that is supported, a path from the root included. -/
def explain : List Tree → MappingError
  | .sign ':' :: .sign ':' :: .word _ :: rest =>
    match explainRest rest with
    | .noWord ended => .noWord ended
    | _ => .unsupported
  | .sign ':' :: .sign ':' :: rest => explainFirst rest
  | ts => explainFirst ts

def continues : List Tree → Bool
  | .sign ':' :: .sign ':' :: _ => true
  | _ => false

/-- Marks with the items of an attribute, one after another with commas between them. -/
def readItems (m : Marks) : List Tree → Except MappingError Marks
  | [] => .ok m
  | [.word "ignore"] => .ok { m with ignored := true }
  | .word "ignore" :: .sign ',' :: rest => readItems { m with ignored := true } rest
  | .word "name" :: .sign '=' :: .literal source :: rest =>
    match textOf? source with
    | none => .error (.noText false)
    | some column =>
      match rest with
      | [] => .ok { m with column }
      | .sign ',' :: rest => readItems { m with column } rest
      | _ => .error .noComma
  | .word "name" :: .sign '=' :: rest => .error (.noText rest.isEmpty)
  | .word "name" :: rest => .error (if continues rest then explainRest rest else .noEquals)
  | .word "ignore" :: rest => .error (if continues rest then explainRest rest else .noComma)
  | ts => .error (explain ts)

/-- Marks with those of a further attribute, if it is one that says how the field is mapped. -/
def readAttribute (m : Marks) : List Tree → Except MappingError Marks
  | [.word s] => if s = attributeName then .error .noArguments else .ok m
  | .word s :: .sign '=' :: _ => if s = attributeName then .error .noParentheses else .ok m
  | [.word s, .group _ inner] => if s = attributeName then m.readItems inner else .ok m
  | _ => .ok m

def readAttributes (m : Marks) : List (List Tree) → Except MappingError Marks
  | [] => .ok m
  | a :: rest =>
    match m.readAttribute a with
    | .error e => .error e
    | .ok m => readAttributes m rest

end Marks

/-- A field with the column that it is mapped to, whether it is left out of the table, and whether
its type is that of optional values. -/
structure MappedField where
  name : String
  type : List Tree
  column : String
  ignored : Bool
  optional : Bool

/-- What comes before the next tree of a path: nothing yet, a separator, a name, or the arguments
of a name. -/
inductive PathSpot
  | start
  | separator
  | name
  | arguments
  deriving DecidableEq, Repr

/-- The last name of a path of names with arguments, if trees are one. Within angle brackets, of
which `depth` are open, anything may stand. -/
def lastName (last : String) (spot : PathSpot) (depth : Nat) (arrow : Bool) :
    List Tree → Option String
  | [] => if spot = .name ∨ spot = .arguments then some last else none
  | t :: ts =>
    if 0 < depth then
      let depth := Tree.nextDepth depth arrow t
      lastName last (if depth = 0 then .arguments else spot) depth (t.isSign '-') ts
    else
      match t, ts with
      | .word s, ts =>
        if spot = .start ∨ spot = .separator then lastName s .name 0 false ts else none
      | .sign ':', .sign ':' :: ts => lastName last .separator 0 false ts
      | .sign '<', ts =>
        if spot = .start ∨ last.isEmpty then none else lastName last spot 1 false ts
      | .group '(' _, _ => if spot = .name then some last else none
      | _, _ => none

def otherTypes : List String := ["dyn", "impl", "fn", "for", "unsafe", "extern"]

/-- The trees are a path to the type of optional values. -/
def isOptional (type : List Tree) : Bool :=
  match type with
  | .word s :: _ => !otherTypes.contains s && lastName "" .start 0 false type == some "Option"
  | _ => lastName "" .start 0 false type == some "Option"

def DeclaredField.map (f : DeclaredField) : Except MappingError MappedField :=
  match (Marks.mk f.name false).readAttributes f.attributes with
  | .error e => .error e
  | .ok m => .ok ⟨f.name, f.type, m.column, m.ignored, isOptional f.type⟩

/-- The mapping of fields in order, up to the first that has none. -/
def mapFields : List DeclaredField → Except MappingError (List MappedField)
  | [] => .ok []
  | f :: fs =>
    match f.map with
    | .error e => .error e
    | .ok m =>
      match mapFields fs with
      | .error e => .error e
      | .ok ms => .ok (m :: ms)

def Declaration.map (d : Declaration) : Except MappingError (List MappedField) :=
  match d.fields with
  | .named fields => mapFields fields
  | .positional 0 => .ok []
  | .positional _ => .error .positional

end TableAccess.Schema

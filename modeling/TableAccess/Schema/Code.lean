import TableAccess.Schema.Mapping
import TableAccess.Text.Quoted

/-!
The code that reads and writes the records of a declaration, as the texts of its tokens with a
blank between two of them.
-/

set_option autoImplicit false
set_option relaxedAutoImplicit false

namespace TableAccess.Schema

/-- The texts of some tokens with a blank between two of them. -/
def Code.join (texts : List String) : String := " ".intercalate (texts.filter (· != ""))

def Code.ofTrees (ts : List Tree) : String := Code.join (Tree.allWords ts)

namespace Generic

def nameText (g : Generic) : String := if g.kind = .lifetime then "' " ++ g.name else g.name

def declared (g : Generic) : String :=
  let attributes := g.attributes.map fun a => Code.ofTrees [.sign '#', .group '[' a]
  Code.join (attributes ++
    [if g.kind = .constant then "const" else "", g.nameText,
      if g.bounds.isEmpty then "" else ":", Code.ofTrees g.bounds])

/-- Parameters in angle brackets, with those for lifetimes first. -/
def list (text : Generic → String) (gs : List Generic) : String :=
  let listed (gs : List Generic) := gs.flatMap fun g => [text g, if g.comma then "," else ""]
  let lifetimes := gs.filter fun g => g.kind == .lifetime
  let others := gs.filter fun g => g.kind != .lifetime
  let ended := lifetimes.isEmpty || others.isEmpty || lifetimes.getLast?.any Generic.comma
  if gs.isEmpty then ""
  else
    Code.join
      (["<"] ++ listed lifetimes ++ [if ended then "" else ","] ++ listed others ++ [">"])

end Generic

/-- Characters of a literal. A zero in front of a digit is written in a form that the digit does
not continue. -/
def literalChars : List Char → List Char
  | [] => []
  | '\x00' :: c :: s =>
    (if '0' ≤ c ∧ c ≤ '7' then "\\x00".toList else Text.shown '\x00') ++ literalChars (c :: s)
  | c :: s => Text.shown c ++ literalChars s

namespace MappedField

def literal (f : MappedField) : String :=
  String.ofList ('"' :: literalChars f.column.toList ++ ['"'])

/-- The code that gives a field of the record `record` its value from a row. -/
def reading (record : String) (f : MappedField) : String :=
  if f.ignored then
    Code.join [f.name, ": : : std : : default : : Default : : default ( ) ,"]
  else
    Code.join [f.name, ": : : postgrape : : Context : : with_context ( <", Code.ofTrees f.type,
      "as : : postgrape : : AsValue > : : try_from_value ( row . take_column (", f.literal,
      ") . unwrap_or_default ( ) , ) , | | format !",
      "( \"While decoding column `\x7b\x7d` into `\x7b\x7d`\" ,", f.literal, ", stringify ! (",
      record, ") , ) , ) ? ,"]

/-- The code that writes what `source` holds to the column of a field. -/
def writingOf (f : MappedField) (source : String) : String :=
  Code.join ["fields . 0 . push ( ( : : std : : borrow : : Cow : : Borrowed (", f.literal,
    ") , : : postgrape : : AsValue : : as_value ( : : std : : clone : : Clone : : clone (", source,
    ") ) , ) ) ;"]

/-- The code that writes a field. An optional one is written when it holds something. -/
def writing (f : MappedField) : String :=
  if f.ignored then ""
  else if f.optional then
    Code.join ["if let Some ( v ) = & self .", f.name, "\x7b", f.writingOf "v", "\x7d"]
  else f.writingOf ("& self . " ++ f.name)

def identifying (fs : List MappedField) : String :=
  match fs.find? fun f => !f.ignored && f.column == "id" with
  | some f =>
    Code.join [": : postgrape : : AsValue : : as_value ( : : std : : clone : : Clone : : clone (",
      "& self .", f.name, ") ) . as_i64 ( )"]
  | none => "None"

end MappedField

namespace Declaration

/-- The head of an implementation of `behavior` for the records of a declaration. -/
def implementation (d : Declaration) (behavior : String) : String :=
  Code.join ["impl", Generic.list Generic.declared d.generics, ": : postgrape : :", behavior, "for",
    d.name, Generic.list Generic.nameText d.generics, if d.clause.isEmpty then "" else "where",
    Code.ofTrees d.clause]

/-- The code that reads the records of a declaration from rows. -/
def rowCode (d : Declaration) (fs : List MappedField) : String :=
  Code.join ([d.implementation "Entity",
    "\x7b fn from_row ( mut row : : : postgrape : : RowLabeled ) - >",
    ": : postgrape : : Result < Self > \x7b Ok ( Self \x7b"] ++
    fs.map (MappedField.reading d.name) ++
    ["\x7d ) \x7d fn id ( & self ) - > Option < i64 > \x7b", MappedField.identifying fs,
      "\x7d \x7d"])

/-- The code that writes the records of a declaration as columns. -/
def fieldsCode (d : Declaration) (fs : List MappedField) : String :=
  Code.join ([d.implementation "AsFields",
    "\x7b fn as_fields ( & self ) - > Option < : : postgrape : : Fields >",
    "\x7b let mut fields = : : postgrape : : Fields : : new ( ) ;"] ++
    fs.map MappedField.writing ++
    ["Some ( fields ) \x7d \x7d"])

end Declaration

end TableAccess.Schema

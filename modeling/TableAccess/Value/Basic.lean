import TableAccess.Value.Kind

/-!
The dynamically typed values that move between records, statements and rows.

Besides the untyped null every kind of value has a typed null of its own, and a list carries
a value that stands for the type of its elements.
-/

set_option autoImplicit false
set_option relaxedAutoImplicit false

namespace TableAccess

/-- A value: null, a scalar or the null of its kind, or a list or the null list with a value
that stands for the type of the elements. -/
inductive Value
  | null
  | scalar (kind : Kind) (payload : Option kind.Payload)
  | list (items : Option (List Value)) (element : Value)

namespace Value

instance : Inhabited Value := ⟨.null⟩

@[match_pattern] def text (s : String) : Value := .scalar .varchar (some s)

@[match_pattern] def integer (n : Int64) : Value := .scalar .int64 (some n)

@[match_pattern] def nullOf (k : Kind) : Value := .scalar k none

/-- A null of whatever type. -/
def isNull : Value → Bool
  | .null => true
  | .scalar _ none => true
  | .list none _ => true
  | _ => false

/-- The integer of an integer value, used to read identifiers. -/
def integer? : Value → Option Int64
  | .scalar .int16 (some n) => some n.toInt64
  | .scalar .int32 (some n) => some n.toInt64
  | .scalar .int64 (some n) => some n
  | _ => none

/-- Two values of the same type, nulls included. -/
def sameType : Value → Value → Bool
  | .null, .null => true
  | .scalar k _, .scalar l _ => k == l
  | .list _ a, .list _ b => sameType a b
  | _, _ => false

/-- Equality of scalars, nulls of one kind being equal. -/
def sameScalar (k l : Kind) (a : Option k.Payload) (b : Option l.Payload) : Bool :=
  if h : k = l then
    match a, b with
    | none, none => true
    | some a, some b => l.same (h ▸ a) b
    | _, _ => false
  else false

mutual
/-- Equality of values, lists by their elements and the values that stand for their type. -/
def same : Value → Value → Bool
  | .null, .null => true
  | .scalar k a, .scalar l b => sameScalar k l a b
  | .list (some a) e, .list (some b) f => sameAll a b && same e f
  | .list none e, .list none f => same e f
  | _, _ => false

/-- Equality of the elements of two lists, one by one. -/
def sameAll : List Value → List Value → Bool
  | [], [] => true
  | a :: as, b :: bs => same a b && sameAll as bs
  | _, _ => false
end

mutual
def messageText : Value → String
  | .null => "Null"
  | .scalar k none => k.name ++ "(None)"
  | .scalar k (some v) => k.name ++ "(Some(" ++ k.messageText v ++ "))"
  | .list none e => "List(None, " ++ messageText e ++ ")"
  | .list (some vs) e =>
    "List(Some([" ++ ", ".intercalate (messageTexts vs) ++ "]), " ++ messageText e ++ ")"

def messageTexts : List Value → List String
  | [] => []
  | v :: vs => messageText v :: messageTexts vs
end

@[simp] theorem sameType_self : (v : Value) → sameType v v = true
  | .null => rfl
  | .scalar _ _ => beq_self_eq_true _
  | .list _ e => sameType_self e

@[simp] theorem isNull_null : isNull .null = true := rfl

@[simp] theorem isNull_nullOf (k : Kind) : isNull (.scalar k none) = true := rfl

@[simp] theorem isNull_some (k : Kind) (v : k.Payload) :
    isNull (.scalar k (some v)) = false := rfl

@[simp] theorem isNull_list_none (e : Value) : isNull (.list none e) = true := rfl

@[simp] theorem isNull_list_some (vs : List Value) (e : Value) :
    isNull (.list (some vs) e) = false := rfl

end Value

end TableAccess

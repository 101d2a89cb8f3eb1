import TableAccess.Text.Digits
import TableAccess.Text.Printable

/-!
A text between double quotes, as messages show it: quotes and backslashes after a backslash,
the common controls by a letter, and what has no printed form by its code point.
-/

set_option autoImplicit false
set_option relaxedAutoImplicit false

namespace TableAccess.Text

def shown (c : Char) : List Char :=
  match c with
  | '"' => ['\\', '"']
  | '\\' => ['\\', '\\']
  | '\n' => ['\\', 'n']
  | '\r' => ['\\', 'r']
  | '\t' => ['\\', 't']
  | '\x00' => ['\\', '0']
  | c => if isPrintable c then [c] else ['\\', 'u', '\x7b'] ++ hexNumeral c.toNat ++ ['\x7d']

def quoted (s : String) : String :=
  String.ofList ('"' :: s.toList.flatMap shown ++ ['"'])

end TableAccess.Text

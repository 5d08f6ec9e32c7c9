import Sift.Text.Printable

/-!
# Quoted text

How a text is shown inside a message: between double quotes, with `\`, `"` and the usual control
characters escaped by a backslash and every other unprintable character written as its code point
in braces.
-/

namespace Sift.Text

def quotedChar (c : Char) : List Char :=
  match c with
  | '\x00' => ['\\', '0']
  | '\t' => ['\\', 't']
  | '\r' => ['\\', 'r']
  | '\n' => ['\\', 'n']
  | '\\' => ['\\', '\\']
  | '"' => ['\\', '"']
  | c => if isPrintable c then [c] else ['\\', 'u', '\x7b'] ++ Nat.toDigits 16 c.toNat ++ ['\x7d']

/-- `s` between double quotes, fit for a message on one line. -/
def quoted (s : String) : String :=
  String.ofList ('"' :: s.toList.flatMap quotedChar ++ ['"'])

end Sift.Text

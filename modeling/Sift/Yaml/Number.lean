import Sift.Yaml.Scalar.Quoted

/-!
# The whole numbers of YAML

A plain scalar may write a whole number in decimal, or after `0x`, `0o` or `0b` with the digits of
another base. Digits that start with a superfluous zero are a text and no number.
-/

namespace Sift.Yaml

/-- The number that digits of a base write. -/
def ofDigits? (base : Nat) (digits : List Char) : Option Nat :=
  if digits.isEmpty then none
  else
    digits.foldlM (fun n c =>
      (hexDigit? c).bind fun d => if d < base then some (base * n + d) else none) 0

/-- Whether digits start with a zero that is not the last of them. -/
def hasExtraZero : List Char → Bool
  | '0' :: rest => !rest.isEmpty && rest.all Char.isDigit
  | _ => false

/-- The whole number that a text writes, with or without a plus sign. -/
def wholeNumber? (s : String) : Option Nat :=
  let body := match s.toList with
    | '+' :: rest => rest
    | cs => cs
  match body with
  | '0' :: 'x' :: digits => ofDigits? 16 digits
  | '0' :: 'o' :: digits => ofDigits? 8 digits
  | '0' :: 'b' :: digits => ofDigits? 2 digits
  | digits => if hasExtraZero digits then none else ofDigits? 10 digits

/-- Whether a text writes null. -/
def isNullText (s : String) : Bool := ["null", "Null", "NULL", "~"].contains s

end Sift.Yaml

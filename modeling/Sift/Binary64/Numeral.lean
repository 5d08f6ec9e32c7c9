import Sift.Binary64.Rounding
import Sift.Text.Blank

/-!
# Numerals in text

`ofText?` reads a text as a number: blanks around it are dropped, then it is a sign, if any,
followed by one of the words `inf`, `infinity` and `nan` in any case, or by digits with at most one
point among them and at most one exponent behind them. At least one digit is needed before the
exponent, and at least one in it.
-/

namespace Sift.Binary64

def digitsValue (cs : List Char) : Nat := cs.foldl (fun n c => 10 * n + (c.toNat - '0'.toNat)) 0

/-- Splits off a sign: whether it is a minus, and what follows it. -/
def takeSign : List Char → Bool × List Char
  | '-' :: cs => (true, cs)
  | '+' :: cs => (false, cs)
  | cs => (false, cs)

/-- The exponent of a numeral, which is all that is left of it: nothing, or the letter `e`, a sign
if any, and digits. -/
def exponent? : List Char → Option Int
  | [] => some 0
  | c :: cs =>
    let (negative, digits) := takeSign cs
    if (c == 'e' || c == 'E') && !digits.isEmpty && digits.all Char.isDigit then
      let n : Int := digitsValue digits
      some (if negative then -n else n)
    else
      none

def unsigned? (negative : Bool) (cs : List Char) : Option Binary64 :=
  let word := String.ofList (cs.map Char.toLower)
  if word == "inf" || word == "infinity" then
    some (infinity negative)
  else if word == "nan" then
    some .nan
  else
    let whole := cs.takeWhile Char.isDigit
    let afterWhole := cs.dropWhile Char.isDigit
    let (fraction, rest) := match afterWhole with
      | '.' :: more => (more.takeWhile Char.isDigit, more.dropWhile Char.isDigit)
      | other => ([], other)
    if whole.isEmpty && fraction.isEmpty then
      none
    else
      (exponent? rest).map fun e =>
        ofDecimal negative (digitsValue (whole ++ fraction)) (e - fraction.length)

/-- The number a text writes, blanks around it aside. -/
def ofText? (s : String) : Option Binary64 :=
  let (negative, cs) := takeSign (Text.trim s.toList)
  unsigned? negative cs

end Sift.Binary64

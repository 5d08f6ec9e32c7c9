import Sift.Json.Basic
import Sift.Binary64.Shortest

/-!
# Writing JSON

The compact text of a JSON value: no blanks, fields in order, control characters escaped and every
other character as it is. A number that is no integer is written as `Binary64.text` writes it.
-/

namespace Sift

/-- The text of a number. -/
def Number.text : Number → String
  | .integer i => toString i
  | .decimal x => x.text

namespace Json

/-- The escape of a character inside a JSON string. -/
def stringChar (c : Char) : List Char :=
  match c with
  | '"' => ['\\', '"']
  | '\\' => ['\\', '\\']
  | '\x08' => ['\\', 'b']
  | '\x0c' => ['\\', 'f']
  | '\n' => ['\\', 'n']
  | '\r' => ['\\', 'r']
  | '\t' => ['\\', 't']
  | c =>
    if c.toNat < 0x20 then
      let hex := Nat.toDigits 16 c.toNat
      ['\\', 'u'] ++ List.replicate (4 - hex.length) '0' ++ hex
    else
      [c]

/-- The text of a JSON string, with its quotes. -/
def stringText (s : String) : String :=
  String.ofList ('"' :: s.toList.flatMap stringChar ++ ['"'])

mutual

/-- The compact text of a value. -/
def text : Json → String
  | .null => "null"
  | .bool b => if b then "true" else "false"
  | .number n => n.text
  | .string s => stringText s
  | .array items => "[" ++ ",".intercalate (itemTexts items) ++ "]"
  | .object fields => "\x7b" ++ ",".intercalate (fieldTexts fields) ++ "\x7d"

/-- The texts of the items of an array. -/
def itemTexts : List Json → List String
  | [] => []
  | v :: rest => text v :: itemTexts rest

/-- The texts of the fields of an object. -/
def fieldTexts : Fields → List String
  | [] => []
  | (name, v) :: rest => (stringText name ++ ":" ++ text v) :: fieldTexts rest

end

end Json

end Sift

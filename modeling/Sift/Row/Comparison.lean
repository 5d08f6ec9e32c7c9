import Sift.Calendar.Reading
import Sift.Json.Printer
import Sift.Like
import Sift.Plan.Basic

/-!
# Comparing a column with an operand

How the value that a row holds in a column lies to an operand, if the two can be compared at all.
Null compares with nothing. Two texts that both write timestamps compare as points in time, other
texts by code points. A number compares with whatever reads as a number, through the floating-point
format.

Main statement: `compareScalar_null_right`.
-/

namespace Sift

def compareText (a b : String) : Ordering := compare a b

/-- The order of two texts, in time if both write timestamps. -/
def compareReading (a b : String) : Ordering :=
  match Timestamp.ofText? a, Timestamp.ofText? b with
  | some s, some t => s.compare t
  | _, _ => compareText a b

/-- The numeric order of two floating-point numbers that may be missing. -/
def compareNumeric (x y : Option Binary64) : Option Ordering := do
  let x ← x
  let y ← y
  x.compare? y

/-- How a column's value lies to an operand, if they can be compared. -/
def compareScalar : Json → Scalar → Option Ordering
  | .bool a, .bool b => some (compare a b)
  | .string a, .text b => some (compareReading a b)
  | .number n, operand => compareNumeric (some n.toBinary64) operand.toBinary64?
  | .string a, .integer i => compareNumeric (Binary64.ofText? a) (some (Binary64.ofInt i))
  | .string a, .decimal x => compareNumeric (Binary64.ofText? a) (some x)
  | _, _ => none

/-- Nothing compares with null, not even null itself. -/
theorem compareScalar_null_right (value : Json) : compareScalar value .null = none := by
  cases value <;> simp [compareScalar, compareNumeric, Scalar.toBinary64?]

/-- The text that a pattern is held against: that of a string, a number or a truth value. -/
def Json.scalarText? : Json → Option String
  | .string s => some s
  | .number n => some n.text
  | .bool b => some (if b then "true" else "false")
  | _ => none

end Sift

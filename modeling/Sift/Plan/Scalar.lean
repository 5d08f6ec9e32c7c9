import Sift.Json.Basic
import Sift.Binary64.Numeral

/-!
# Scalar operands

A scalar is what a comparison or a bound may hold: nothing, a truth value, an integer of 64 bits
with sign, a floating-point number or a text. Arrays and objects are no scalars. An integer too
large for its kind becomes the nearest floating-point number.

Main statement: `ofJson?_isSome_iff`.
-/

namespace Sift

inductive Scalar where
  | null
  | bool (b : Bool)
  | integer (i : Int)
  | decimal (x : Binary64)
  | text (s : String)
  deriving DecidableEq, Repr

namespace Scalar

def fitsSigned (i : Int) : Bool := -(1 <<< 63 : Nat) ≤ i && i < (1 <<< 63 : Nat)

def ofNumber : Number → Scalar
  | .integer i => if fitsSigned i then .integer i else .decimal (Binary64.ofInt i)
  | .decimal x => .decimal x

/-- The scalar a value is, unless it is an array or an object. -/
def ofJson? : Json → Option Scalar
  | .null => some .null
  | .bool b => some (.bool b)
  | .number n => some (ofNumber n)
  | .string s => some (.text s)
  | .array _ | .object _ => none

def isNull : Scalar → Bool
  | .null => true
  | _ => false

/-- The scalar as a floating-point number; a text is one if it writes one. -/
def toBinary64? : Scalar → Option Binary64
  | .integer i => some (Binary64.ofInt i)
  | .decimal x => some x
  | .text s => Binary64.ofText? s
  | .null | .bool _ => none

/-- Every value but an array and an object is a scalar. -/
theorem ofJson?_isSome_iff (v : Json) :
    (ofJson? v).isSome ↔ (∀ items, v ≠ .array items) ∧ ∀ fields, v ≠ .object fields := by
  cases v <;> simp [ofJson?]

theorem isNull_iff (s : Scalar) : s.isNull ↔ s = .null := by cases s <;> simp [isNull]

end Scalar

end Sift

import Sift.Calendar.Reading
import Sift.Compile.Error
import Sift.FieldSet
import Sift.Json.Printer
import Sift.Like
import Sift.Plan.Basic

/-!
# Compiling one entry

What a single entry of each clause becomes in a plan, or why it is rejected. The column is checked
first, then the operator, then the value. The bounds of a range are the exception: bad bounds are no
reason to reject a document, the range is only left out.
-/

namespace Sift

/-- What an entry of the comparing clause becomes: a comparison, or a null check if it compares
with null. -/
inductive Comparison where
  | predicate (p : Predicate)
  | nullCheck (c : NullCheck)
  deriving DecidableEq

def Comparison.predicate? : Comparison → Option Predicate
  | .predicate p => some p
  | .nullCheck _ => none

def Comparison.nullCheck? : Comparison → Option NullCheck
  | .predicate _ => none
  | .nullCheck c => some c

inductive Bounded where
  | range (r : RangeCheck)
  | skipped (s : SkippedRange)
  deriving DecidableEq

def Bounded.range? : Bounded → Option RangeCheck
  | .range r => some r
  | .skipped _ => none

def Bounded.skipped? : Bounded → Option SkippedRange
  | .range _ => none
  | .skipped s => some s

namespace Compile

def checkField (allowed : FieldSet) (clause : Clause) (field : String) :
    Except CompileError String :=
  if allowed.contains field then .ok field else .error (.unknownField clause field)

/-- The operator of an entry, equality if it names none. -/
def operator (clause : Clause) (c : Condition) : Except CompileError Operator :=
  match c.operator with
  | none => .ok .equal
  | some raw =>
    match Operator.ofText? raw with
    | some op => .ok op
    | none => .error (.unknownOperator clause raw)

def pattern : Json → Except ValueFault String
  | .string s => .ok (Like.ofOperand s)
  | .number n => .ok (Like.ofOperand n.text)
  | v => .error (.notPattern v.kind)

/-- What a comparison with a value becomes. Equality with null is a null check, and so is its
opposite. -/
def comparisonWith (field : String) (op : Operator) (value : Json) :
    Except ValueFault Comparison :=
  match value, op with
  | .null, .equal => .ok (.nullCheck ⟨field, true⟩)
  | .null, .notEqual => .ok (.nullCheck ⟨field, false⟩)
  | .null, _ => .error .nullOrdered
  | v, .like => (pattern v).map fun p => .predicate ⟨field, .like, .text p⟩
  | v, op =>
    match Scalar.ofJson? v with
    | some s => .ok (.predicate ⟨field, op, s⟩)
    | none => .error (.notScalar v.kind)

def dateOperand (op : Operator) (value : Json) : Except ValueFault DateOperand :=
  match op, value with
  | .like, v => (pattern v).map .pattern
  | _, .string s =>
    match Date.ofText? s with
    | some d => .ok (.day d)
    | none => .error .notDate
  | _, _ => .error .notDate

def bounds : Json → Except RangeFault (Scalar × Scalar)
  | .array [low, high] =>
    match Scalar.ofJson? low, Scalar.ofJson? high with
    -- Null is a scalar, but it bounds nothing.
    | some l, some h => if l.isNull || h.isNull then .error .notScalars else .ok (l, h)
    | _, _ => .error .notScalars
  | .array items => .error (.wrongCount items.length)
  | v => .error (.notAPair v.kind)

def comparison (allowed : FieldSet) (c : Condition) : Except CompileError Comparison := do
  let field ← checkField allowed .compare c.field
  let op ← operator .compare c
  (comparisonWith field op c.value).mapError (.malformedEntry .compare field)

def datePredicate (allowed : FieldSet) (c : Condition) : Except CompileError DatePredicate := do
  let field ← checkField allowed .date c.field
  let op ← operator .date c
  let value ← (dateOperand op c.value).mapError (.malformedEntry .date field)
  return ⟨field, op, value⟩

def nullCheck (allowed : FieldSet) (clause : Clause) (isNull : Bool) (field : String) :
    Except CompileError NullCheck :=
  (checkField allowed clause field).map (⟨·, isNull⟩)

def bounded (allowed : FieldSet) (b : String × Json) : Except CompileError Bounded := do
  let field ← checkField allowed .between b.1
  match bounds b.2 with
  | .ok (low, high) => return .range ⟨field, low, high⟩
  | .error fault => return .skipped ⟨field, fault⟩

def sortKey (allowed : FieldSet) (e : OrderEntry) : Except CompileError SortKey :=
  (checkField allowed .order e.field).map (⟨·, SortDirection.ofOrder e.order⟩)

end Compile

end Sift

import Sift.Like.Footprint
import Sift.Row.Comparison
import Sift.Query

/-!
# Which rows a plan selects

A row is selected when its primary key is not null and it passes every part of the plan; of the
ranges it need only lie in one, if there are any. A column that is missing or null passes no
comparison.

Main statement: `selects_iff`.
-/

namespace Sift

def isNullColumn (row : Json) (field : String) : Bool :=
  match row.field? field with
  | some .null | none => true
  | some _ => false

def Predicate.holds (p : Predicate) (row : Json) : Bool :=
  match row.field? p.field with
  | none => false
  | some value =>
    match p.operator, p.value with
    | .like, .text pattern => value.scalarText?.any (Like.matchesText pattern ·)
    | .like, _ => false
    | op, operand => (compareScalar value operand).any op.accepts

/-- The calendar day that a column of a row writes. -/
def dayOf? (row : Json) (field : String) : Option Date :=
  match row.field? field with
  | some (.string s) => Date.ofText? s
  | _ => none

def DatePredicate.holds (p : DatePredicate) (row : Json) : Bool :=
  match dayOf? row p.field with
  | none => false
  | some d =>
    match p.value with
    | .pattern pattern => Like.matchesText pattern d.text
    | .day operand => p.operator.accepts (d.compare operand)

def NullCheck.holds (c : NullCheck) (row : Json) : Bool := isNullColumn row c.field == c.isNull

def RangeCheck.holds (r : RangeCheck) (row : Json) : Bool :=
  match row.field? r.field with
  | none => false
  | some value =>
    -- A comparison that is not defined holds on neither side.
    (compareScalar value r.low).any (· != .lt) && (compareScalar value r.high).any (· != .gt)

namespace Plan

/-- Whether the row lies in one of the ranges, or there are none. -/
def inRanges (p : Plan) (row : Json) : Bool := p.ranges.isEmpty || p.ranges.any (·.holds row)

def admits (p : Plan) (row : Json) : Bool :=
  p.predicates.all (·.holds row) && p.datePredicates.all (·.holds row)
    && p.nullChecks.all (·.holds row) && p.inRanges row

/-- The patterns that the plan matches texts against, in the order in which they are built. -/
def patterns (p : Plan) : List String :=
  (p.predicates.filterMap fun q =>
    match q.operator, q.value with
    | .like, .text pattern => some pattern
    | _, _ => none)
  ++ p.datePredicates.filterMap fun q =>
    match q.value with
    | .pattern pattern => some pattern
    | .day _ => none

/-- The first pattern that is too large to be built. -/
def largePattern? (p : Plan) : Option String := p.patterns.find? Like.isTooLarge

end Plan

namespace Query

def selects (q : Query) (row : Json) : Bool :=
  !isNullColumn row q.entity.primaryKey && q.plan.admits row

/-- A row passes every test of the plan, and one of its ranges if it has any. -/
theorem selects_iff (q : Query) (row : Json) :
    q.selects row ↔ isNullColumn row q.entity.primaryKey = false
      ∧ (∀ p ∈ q.plan.predicates, p.holds row) ∧ (∀ p ∈ q.plan.datePredicates, p.holds row)
      ∧ (∀ c ∈ q.plan.nullChecks, c.holds row)
      ∧ (q.plan.ranges = [] ∨ ∃ r ∈ q.plan.ranges, r.holds row) := by
  simp [selects, Plan.admits, Plan.inRanges, and_assoc]

end Query

end Sift

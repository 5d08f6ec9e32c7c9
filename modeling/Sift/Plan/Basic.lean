import Sift.Calendar.Timestamp
import Sift.Plan.Operator
import Sift.Plan.Scalar

/-!
# Filter plans

A plan is the checked form of a filter document. It is data: its parts are what a backend has to
apply, all of them together, except that a row need only lie in one of the ranges.
-/

namespace Sift

structure Predicate where
  field : String
  operator : Operator
  value : Scalar
  deriving DecidableEq

inductive DateOperand where
  /-- A day, compared in calendar order. -/
  | day (d : Date)
  /-- A pattern for the text of the column's day. -/
  | pattern (p : String)
  deriving DecidableEq

structure DatePredicate where
  field : String
  operator : Operator
  value : DateOperand
  deriving DecidableEq

/-- The column must be null or missing (`isNull`), or must not be. -/
structure NullCheck where
  field : String
  isNull : Bool
  deriving DecidableEq

/-- The column must lie between two bounds, ends included. -/
structure RangeCheck where
  field : String
  low : Scalar
  high : Scalar
  deriving DecidableEq

inductive RangeFault where
  | notAPair (kind : String)
  | wrongCount (n : Nat)
  | notScalars
  deriving DecidableEq

def RangeFault.message : RangeFault → String
  | .notAPair kind => "expected [low, high], got " ++ kind
  | .wrongCount n => "expected 2 bounds, got " ++ toString n
  | .notScalars => "bounds must be non-null scalars"

structure SkippedRange where
  field : String
  fault : RangeFault
  deriving DecidableEq

structure Plan where
  predicates : List Predicate
  datePredicates : List DatePredicate
  nullChecks : List NullCheck
  /-- A row must lie in one of these, if there are any. -/
  ranges : List RangeCheck
  sort : List SortKey
  skipped : List SkippedRange
  deriving DecidableEq

namespace Plan

def empty : Plan := ⟨[], [], [], [], [], []⟩

def isUnfiltered (p : Plan) : Bool :=
  p.predicates.isEmpty && p.datePredicates.isEmpty && p.nullChecks.isEmpty && p.ranges.isEmpty

end Plan

end Sift

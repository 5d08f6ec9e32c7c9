import Sift.Compile.Entry
import Sift.Document.Decoding
import Sift.Event

/-!
# Compiling documents

`Document.compile` turns a document into a plan that only mentions columns of an allow-list. The
clauses are gone through in a fixed order, entry by entry, and the first bad entry rejects the
document. Ranges with bad bounds are left out and listed in the plan; each is also reported as an
event, even when a later entry rejects the document.
-/

namespace Sift

/-- The clauses that are compiled before the ranges. -/
structure CompiledTests where
  comparisons : List Comparison
  nullChecks : List NullCheck
  datePredicates : List DatePredicate

namespace Document

/-- All bounds of the range clause, object by object and key by key. -/
def bounds (d : Document) : Fields := d.between.flatten

def compileTests (d : Document) (allowed : FieldSet) : Except CompileError CompiledTests := do
  let comparisons ← d.conditions.mapM (Compile.comparison allowed)
  let nulls ← d.nulls.mapM (Compile.nullCheck allowed .isNull true)
  let notNulls ← d.notNulls.mapM (Compile.nullCheck allowed .notNull false)
  let dates ← d.dates.mapM (Compile.datePredicate allowed)
  return ⟨comparisons, nulls ++ notNulls, dates⟩

/-- The plan that a document stands for, if all its columns are in the allow-list and all its
entries make sense. -/
def compile (d : Document) (allowed : FieldSet) : Except CompileError Plan := do
  let tests ← d.compileTests allowed
  -- Bad bounds are no error; here only a column can be.
  let ranges ← d.bounds.mapM (Compile.bounded allowed)
  let sort ← d.order.mapM (Compile.sortKey allowed)
  return {
    predicates := tests.comparisons.filterMap Comparison.predicate?
    datePredicates := tests.datePredicates
    nullChecks := tests.comparisons.filterMap Comparison.nullCheck? ++ tests.nullChecks
    ranges := ranges.filterMap Bounded.range?
    sort := sort
    skipped := ranges.filterMap Bounded.skipped? }

/-- The ranges left out before compilation ended, be it by success or by rejection. -/
def skippedRanges (d : Document) (allowed : FieldSet) : List SkippedRange :=
  match d.compileTests allowed with
  | .error _ => []
  | .ok _ =>
    (d.bounds.takeWhile fun b => allowed.contains b.1).filterMap fun b =>
      match Compile.bounds b.2 with
      | .ok _ => none
      | .error fault => some ⟨b.1, fault⟩

def compileEvents (d : Document) (allowed : FieldSet) : List Event :=
  (d.skippedRanges allowed).map fun s => .skippedRange s.field s.fault.message

end Document

end Sift

import Sift.Json.Basic
import Sift.Text.Quoted

/-!
# Events

What the library reports while it works, for a log. An event has a level, a message and named
values.
-/

namespace Sift

inductive Level where
  | debug
  | info
  | warn
  deriving DecidableEq

def Level.text : Level → String
  | .debug => "DEBUG"
  | .info => "INFO"
  | .warn => "WARN"

inductive Event where
  /-- A range of a document was left out of its plan. -/
  | skippedRange (field reason : String)
  /-- A request goes on without some of the ranges it asked for. -/
  | ignoredRanges (entity : String) (skipped : Nat)
  | executed (entity backend : String) (page perPage total returned : Nat)
  | executionFailed (entity backend error : String)
  | serviceBuilt (backend : String) (plurals : List String)
  | configLoaded (path : String) (entities : Nat)
  deriving DecidableEq

namespace Event

def level : Event → Level
  | .executionFailed .. => .warn
  | .configLoaded .. => .info
  | _ => .debug

def message : Event → String
  | .skippedRange .. => "Skipping malformed whereBetween bound"
  | .ignoredRanges .. => "Ignoring malformed whereBetween entries"
  | .executed .. => "Executed filter plan"
  | .executionFailed .. => "Filter plan execution failed"
  | .serviceBuilt .. => "Building search router"
  | .configLoaded .. => "Loaded search configuration"

def listText (names : List String) : String :=
  "[" ++ ", ".intercalate (names.map Text.quoted) ++ "]"

def count (n : Nat) : Json := .number (.integer n)

def fields : Event → Fields
  | .skippedRange field reason => [("field", .string field), ("reason", .string reason)]
  | .ignoredRanges entity skipped => [("entity", .string entity), ("skipped", count skipped)]
  | .executed entity backend page perPage total returned =>
    [("entity", .string entity), ("backend", .string backend), ("page", count page),
      ("per_page", count perPage), ("total", count total), ("returned", count returned)]
  | .executionFailed entity backend error =>
    [("entity", .string entity), ("backend", .string backend), ("error", .string error)]
  | .serviceBuilt backend plurals =>
    [("backend", .string backend), ("entities", .string (listText plurals))]
  | .configLoaded path entities => [("path", .string path), ("entities", count entities)]

end Event

end Sift

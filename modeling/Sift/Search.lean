import Sift.Error
import Sift.Event
import Sift.Page.Basic

/-!
# Executing a plan

A search counts the rows that a plan selects, fetches the slice that makes up the page, unless the
page lies past the last row, takes the hidden columns out of the rows and assembles the page. A
failure of the storage ends it. An execution records the calls it made and the events it reported.

Main statements: `execute_of_count_error`, `execute_of_past_end`, `execute_of_fetch_error` and
`execute_of_fetch`, one for each way a search can go.
-/

namespace Sift

inductive Call where
  | count
  | fetch (w : Window)
  deriving DecidableEq

def Call.window? : Call → Option Window
  | .count => none
  | .fetch w => some w

/-- How executing a plan ended, and what happened on the way. -/
structure Execution where
  result : Except ExecutionError Page
  calls : List Call
  events : List Event

namespace Backend

def failed (b : Backend) (e : Entity) (calls : List Call) (s : StorageError) : Execution :=
  ⟨.error (.ofStorage e.name s), calls, [.executionFailed e.name b.name s.message]⟩

def finished (b : Backend) (e : Entity) (r : PageRequest) (calls : List Call) (total : Nat)
    (rows : List Json) : Execution :=
  ⟨.ok (Page.new (rows.map e.project) total r), calls,
    [.executed e.name b.name r.page r.perPage total rows.length]⟩

/-- Executes a plan for an entity and makes the page of a request. -/
def execute (b : Backend) (p : Plan) (e : Entity) (r : PageRequest) : Execution :=
  let q := Query.resolve e p
  match b.count q with
  | .error s => b.failed e [.count] s
  | .ok total =>
    -- Behind the last row there is nothing to fetch.
    if total ≤ r.window.offset then
      b.finished e r [.count] total []
    else
      let calls := [.count, .fetch r.window]
      match b.fetch q r.window with
      | .error s => b.failed e calls s
      | .ok rows => b.finished e r calls total rows

def executorText (b : Backend) : String :=
  "QueryExecutor \x7b backend: " ++ Text.quoted b.name ++ " \x7d"

variable {b : Backend} {p : Plan} {e : Entity} {r : PageRequest}

/-- If the count fails, that is the end of the search. -/
theorem execute_of_count_error {s : StorageError} (h : b.count (.resolve e p) = .error s) :
    b.execute p e r = b.failed e [.count] s := by
  simp [execute, h]

/-- A page behind the last row is empty, and no rows are asked for. -/
theorem execute_of_past_end {total : Nat} (h : b.count (.resolve e p) = .ok total)
    (hw : total ≤ r.offset) : b.execute p e r = b.finished e r [.count] total [] := by
  simp [execute, h, PageRequest.window, hw]

/-- If the fetch fails, nothing is shown of the count before it. -/
theorem execute_of_fetch_error {total : Nat} {s : StorageError}
    (h : b.count (.resolve e p) = .ok total) (hw : r.offset < total)
    (hf : b.fetch (.resolve e p) r.window = .error s) :
    b.execute p e r = b.failed e [.count, .fetch r.window] s := by
  have : ¬ total ≤ r.window.offset := by simpa [PageRequest.window] using hw
  simp [execute, h, this, hf]

/-- Otherwise the count is asked for first and the rows of the page after it. -/
theorem execute_of_fetch {total : Nat} {rows : List Json}
    (h : b.count (.resolve e p) = .ok total) (hw : r.offset < total)
    (hf : b.fetch (.resolve e p) r.window = .ok rows) :
    b.execute p e r = b.finished e r [.count, .fetch r.window] total rows := by
  have : ¬ total ≤ r.window.offset := by simpa [PageRequest.window] using hw
  simp [execute, h, this, hf]

end Backend

end Sift

import Sift.Compile.Error
import Sift.Config.Error
import Sift.Storage.Backend

/-!
# Errors of a search

Everything that can go wrong between a request and its answer, by category. Each error has a code
for programs, a message for people, an HTTP status, and perhaps details.

Main statement: `status_lt_500_iff`, the errors whose status blames the client.
-/

namespace Sift

/-- A plan could not be executed for an entity, because the storage failed. -/
inductive ExecutionError where
  | storageUnavailable (entity : String) (source : StorageError)
  | queryFailed (entity : String) (source : StorageError)
  deriving DecidableEq

namespace ExecutionError

/-- Sorts a failure of the storage by whether it could be reached. -/
def ofStorage (entity : String) : StorageError → ExecutionError
  | .unavailable b m => .storageUnavailable entity (.unavailable b m)
  | .query b m => .queryFailed entity (.query b m)

def message : ExecutionError → String
  | .storageUnavailable entity e =>
    "Storage unavailable while querying '" ++ entity ++ "': " ++ e.message
  | .queryFailed entity e => "Query on '" ++ entity ++ "' failed: " ++ e.message

def code : ExecutionError → String
  | .storageUnavailable .. => "STORAGE_UNAVAILABLE"
  | .queryFailed .. => "QUERY_FAILED"

def status : ExecutionError → Nat
  | .storageUnavailable .. => 503
  | .queryFailed .. => 500

end ExecutionError

inductive RequestError where
  | unknownEntity (entity : String)
  | invalidBody (message : String)
  | invalidQuery (message : String)
  deriving DecidableEq

namespace RequestError

def message : RequestError → String
  | .unknownEntity entity => "Unknown entity: " ++ entity
  | .invalidBody m => "Invalid request body: " ++ m
  | .invalidQuery m => "Invalid query string: " ++ m

def code : RequestError → String
  | .unknownEntity _ => "UNKNOWN_ENTITY"
  | .invalidBody _ => "INVALID_BODY"
  | .invalidQuery _ => "INVALID_QUERY"

def status : RequestError → Nat
  | .unknownEntity _ => 404
  | .invalidBody _ | .invalidQuery _ => 400

end RequestError

inductive SearchError where
  | compile (e : CompileError)
  | execution (e : ExecutionError)
  | config (e : ConfigError)
  | request (e : RequestError)
  /-- Should not happen in normal operation. -/
  | internal (message : String)
  deriving DecidableEq

namespace SearchError

def message : SearchError → String
  | .compile e => e.message
  | .execution e => e.message
  | .config e => e.message
  | .request e => e.message
  | .internal m => "Internal error: " ++ m

def code : SearchError → String
  | .compile e => e.code
  | .execution e => e.code
  | .config _ => "CONFIG_ERROR"
  | .request e => e.code
  | .internal _ => "INTERNAL_ERROR"

def status : SearchError → Nat
  | .compile _ => 400
  | .execution e => e.status
  | .config _ => 500
  | .request e => e.status
  | .internal _ => 500

/-- What the error is about, where it is about something in the request. -/
def details : SearchError → Option Fields
  | .compile (.unknownField c field) => some [("clause", .string c.key), ("field", .string field)]
  | .compile (.unknownOperator c operator) =>
    some [("clause", .string c.key), ("operator", .string operator)]
  | .compile (.malformedEntry c field _) =>
    some [("clause", .string c.key), ("field", .string field)]
  | .request (.unknownEntity entity) => some [("entity", .string entity)]
  | _ => none

def toJson (e : SearchError) : Json :=
  .object <| [("code", .string e.code), ("message", .string e.message)]
    ++ match e.details with
      | some d => [("details", .object d)]
      | none => []

/-- The client is to blame for a document and for a request, never for the storage. -/
theorem status_lt_500_iff (e : SearchError) :
    e.status < 500 ↔ (∃ c, e = .compile c) ∨ ∃ r, e = .request r := by
  cases e with
  | compile c => simp [status]
  | execution x => cases x <;> simp [status, ExecutionError.status]
  | config c => simp [status]
  | request r => cases r <;> simp [status, RequestError.status]
  | internal m => simp [status]

end SearchError

end Sift

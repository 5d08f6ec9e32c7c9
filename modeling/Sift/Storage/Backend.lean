import Sift.Query

/-!
# Storage backends

A backend answers two questions about a query: how many rows it selects, and which rows make up a
slice of its sorted result. Either may fail, because the storage cannot be reached or because it
refuses the query.
-/

namespace Sift

/-- Why the storage did not answer. -/
inductive StorageError where
  | unavailable (backend message : String)
  | query (backend message : String)
  deriving DecidableEq, Repr

def StorageError.message : StorageError → String
  | .unavailable backend m => "Storage backend '" ++ backend ++ "' is unavailable: " ++ m
  | .query backend m => backend ++ " query error: " ++ m

/-- Something that answers queries. -/
structure Backend where
  /-- The name that errors and events give. -/
  name : String
  count : Query → Except StorageError Nat
  fetch : Query → Window → Except StorageError (List Json)

end Sift

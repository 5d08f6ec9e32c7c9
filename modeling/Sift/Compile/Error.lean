import Sift.Document.Basic
import Sift.Document.Fault

/-!
# Rejected documents

Why a filter document was rejected. Each reason is the client's to mend, and names the clause and
the column or operator at fault.
-/

namespace Sift

inductive ValueFault where
  | nullOrdered
  | notScalar (kind : String)
  | notPattern (kind : String)
  | notDate
  /-- A fault described elsewhere. -/
  | described (message : String)
  deriving DecidableEq

def ValueFault.message : ValueFault → String
  | .nullOrdered => "null can only be compared with = or !="
  | .notScalar kind => "expected a scalar value, got " ++ kind
  | .notPattern kind => "LIKE expects a string or number, got " ++ kind
  | .notDate => "expected a date such as 2024-01-31"
  | .described message => message

inductive CompileError where
  | invalidDocument (message : String)
  | unknownField (clause : Clause) (field : String)
  | unknownOperator (clause : Clause) (operator : String)
  | malformedEntry (clause : Clause) (field : String) (fault : ValueFault)
  deriving DecidableEq

namespace CompileError

/-- The rejection of a value that has not the shape of a document. -/
def ofFault (f : DocumentFault) : CompileError := .invalidDocument f.message

def message : CompileError → String
  | .invalidDocument m => "Invalid filter document: " ++ m
  | .unknownField c field => "Field '" ++ field ++ "' in " ++ c.key ++ " is not queryable"
  | .unknownOperator c operator => "Unsupported operator '" ++ operator ++ "' in " ++ c.key
  | .malformedEntry c field fault =>
    "Malformed " ++ c.key ++ " entry for field '" ++ field ++ "': " ++ fault.message

def code : CompileError → String
  | .invalidDocument _ => "INVALID_DOCUMENT"
  | .unknownField _ _ => "UNKNOWN_FIELD"
  | .unknownOperator _ _ => "UNKNOWN_OPERATOR"
  | .malformedEntry _ _ _ => "MALFORMED_ENTRY"

end CompileError

end Sift

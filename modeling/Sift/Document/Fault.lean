import Sift.Binary64.Shortest
import Sift.Json.Basic
import Sift.Text.Quoted

/-!
# Faults in the shape of a value

Why a JSON value could not be taken for a document. Each fault names what was found and what would
have been right.
-/

namespace Sift

inductive Expected where
  | sequence
  | string
  | map
  | orderEntry
  deriving DecidableEq

def Expected.text : Expected → String
  | .sequence => "a sequence"
  | .string => "a string"
  | .map => "a map"
  | .orderEntry => "struct OrderEntry"

/-- How a message shows a value that has the wrong type. -/
def Json.shown : Json → String
  | .null => "null"
  | .bool b => "boolean `" ++ (if b then "true" else "false") ++ "`"
  | .number (.integer i) => "integer `" ++ toString i ++ "`"
  | .number (.decimal x) => "floating point `" ++ x.text ++ "`"
  | .string s => "string " ++ Text.quoted s
  | .array _ => "sequence"
  | .object _ => "map"

inductive DocumentFault where
  /-- The text is not JSON. -/
  | syntaxError
  | notAnObject (found : Json)
  | wrongType (found : Json) (expected : Expected)
  | operatorNotText (found : Json)
  | fieldNotText (found : Json)
  /-- An entry of a comparing clause with neither two nor three elements. -/
  | wrongEntryLength (n : Nat)
  | missingField (name : String)
  /-- A sort entry without any element. -/
  | orderEntryEmpty
  /-- A sort entry with more than two elements. -/
  | orderEntryTooLong (n : Nat)

def DocumentFault.message : DocumentFault → String
  | .syntaxError => "<json syntax>"
  | .notAnObject found => "expected a JSON object, got " ++ found.kind
  | .wrongType found expected => "invalid type: " ++ found.shown ++ ", expected " ++ expected.text
  | .operatorNotText found => "operator must be a string, got " ++ found.kind
  | .fieldNotText found => "field name must be a string, got " ++ found.kind
  | .wrongEntryLength n =>
    "expected [field, value] or [field, operator, value], got " ++ toString n ++ " element(s)"
  | .missingField name => "missing field `" ++ name ++ "`"
  | .orderEntryEmpty => "invalid length 0, expected struct OrderEntry with 2 elements"
  | .orderEntryTooLong n =>
    "invalid length " ++ toString n ++ ", expected fewer elements in array"

end Sift

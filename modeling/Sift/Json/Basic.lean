import Sift.Binary64.Rounding

/-!
# JSON values

A JSON value keeps what its text says: the order of the fields of an object, and whether a number
was written as an integer (`5`) or not (`5.0`). The fields of an object have distinct names;
`putField` adds one under that rule, so that of two fields with one name the later value stays, in
the earlier place.

`Json.same` is equality of meaning: the order of fields does not count, and the two zeros are one
number, but an integer never equals a number with a fraction.
-/

namespace Sift

/-- A JSON number: an integer between `-2 ^ 63` and `2 ^ 64 - 1`, or any other finite number. -/
inductive Number where
  | integer (value : Int)
  | decimal (value : Binary64)
  deriving DecidableEq, Repr

def Number.toBinary64 : Number → Binary64
  | .integer i => Binary64.ofInt i
  | .decimal x => x

/-- Equality of JSON numbers: of one kind and of one value. -/
def Number.same : Number → Number → Bool
  | .integer i, .integer j => i == j
  | .decimal x, .decimal y => Binary64.sameValue x y
  | _, _ => false

inductive Json where
  | null
  | bool (b : Bool)
  | number (n : Number)
  | string (s : String)
  | array (items : List Json)
  | object (fields : List (String × Json))
  deriving Repr, Inhabited

abbrev Fields := List (String × Json)

namespace Json

/-- What a message calls a value of this sort. -/
def kind : Json → String
  | .null => "null"
  | .bool _ => "a boolean"
  | .number _ => "a number"
  | .string _ => "a string"
  | .array _ => "an array"
  | .object _ => "an object"

/-- Sets the field `name` to `value`, in its old place or, if it is new, at the end. -/
def putField (name : String) (value : Json) : Fields → Fields
  | [] => [(name, value)]
  | (n, v) :: rest => if n == name then (n, value) :: rest else (n, v) :: putField name value rest

/-- The value of a field of an object; other values have no fields. -/
def field? (name : String) : Json → Option Json
  | .object fields => fields.lookup name
  | _ => none

mutual

def same : Json → Json → Bool
  | .null, .null => true
  | .bool a, .bool b => a == b
  | .number a, .number b => a.same b
  | .string a, .string b => a == b
  | .array xs, .array ys => sameItems xs ys
  | .object fs, .object gs => fs.length == gs.length && sameFields fs gs
  | _, _ => false

def sameItems : List Json → List Json → Bool
  | [], [] => true
  | x :: xs, y :: ys => same x y && sameItems xs ys
  | _, _ => false

/-- Whether every field on the left has its equal on the right. -/
def sameFields : Fields → Fields → Bool
  | [], _ => true
  | (name, value) :: rest, gs =>
    (match gs.lookup name with
      | some other => same value other
      | none => false) && sameFields rest gs

end

/-! ### Looking up what was put -/

/-- The field has the value that was put there last. -/
theorem lookup_putField_self (name : String) (value : Json) (fields : Fields) :
    (putField name value fields).lookup name = some value := by
  induction fields with
  | nil => simp [putField]
  | cons f rest ih =>
    obtain ⟨n, v⟩ := f
    by_cases h : n = name
    · simp [putField, h]
    · have h' : (name == n) = false := by simpa using fun e => h e.symm
      simp [putField, h, List.lookup_cons, h', ih]

/-- Putting a field leaves the others as they are. -/
theorem lookup_putField_of_ne {name other : String} (value : Json) (fields : Fields)
    (h : other ≠ name) : (putField name value fields).lookup other = fields.lookup other := by
  have h' : (other == name) = false := by simpa using h
  induction fields with
  | nil => simp [putField, List.lookup_cons, h']
  | cons f rest ih =>
    obtain ⟨n, v⟩ := f
    by_cases hn : n = name
    · simp [putField, hn, List.lookup_cons, h']
    · simp [putField, hn, List.lookup_cons, ih]

end Json

end Sift

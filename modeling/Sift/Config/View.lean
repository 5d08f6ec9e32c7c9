import Sift.Json.Basic
import Sift.Yaml.Node
import Sift.Yaml.Number

/-!
# Values that settings are read from

A configuration can be written in JSON or in YAML. A view says what a value of either kind counts
as where a setting of some type is expected.

JSON says what it means: a text is a string, and null leaves an optional setting unset. A plain
scalar of YAML is a text where a text is expected, a number where a number is, and a blank one also
an empty list and a record in which nothing is set. A reference is followed where it is taken.
-/

namespace Sift

/-- The ways in which a value can be taken, each of which may fail. -/
structure View (m : Type → Type) (α : Type) where
  text : α → m String
  number : α → m UInt64
  /-- The value of an optional setting, which may be unset. -/
  setting : α → m (Option α)
  items : α → m (List α)
  /-- The settings of a record with these names. There may be others among them, but each of the
  names occurs at most once. -/
  record : List String → α → m (List (String × α))

def ofNat64? (n : Nat) : Option UInt64 := if n < UInt64.size then some (UInt64.ofNat n) else none

/-! ### JSON -/

namespace Json

def asText? : Json → Option String
  | .string s => some s
  | _ => none

def asNumber? : Json → Option UInt64
  | .number (.integer (.ofNat n)) => ofNat64? n
  | _ => none

def asSetting? : Json → Option (Option Json)
  | .null => some none
  | v => some (some v)

def asItems? : Json → Option (List Json)
  | .array items => some items
  | _ => none

/-- A record is an object, or an array of the first of its settings in their order. -/
def asRecord? (names : List String) : Json → Option (List (String × Json))
  | .object fields => some fields
  | .array items => if items.length ≤ names.length then some (names.zip items) else none
  | _ => none

def view : View Option Json := ⟨asText?, asNumber?, asSetting?, asItems?, asRecord?⟩

end Json

/-! ### YAML -/

namespace Yaml

def nullTag : String := "tag:yaml.org,2002:null"

def intTag : String := "tag:yaml.org,2002:int"

namespace Scalar

def isBlank (s : Scalar) : Bool := s.style = .plain && s.text.isEmpty

/-- Whether the scalar leaves an optional setting unset; nothing if its tag says so and its text
does not. -/
def isUnset? (s : Scalar) : Option Bool :=
  if s.style ≠ .plain then some false
  else
    match s.tag with
    | none => some (s.text.isEmpty || isNullText s.text)
    | some tag =>
      if tag ≠ nullTag then some false else if isNullText s.text then some true else none

/-- The number that the scalar writes. A quoted scalar writes none, and a block only if it is tagged
as a number. -/
def number? (s : Scalar) : Option UInt64 :=
  if s.style = .plain || (s.style = .literal && s.tag == some intTag) then
    (wholeNumber? s.text).bind ofNat64?
  else
    none

end Scalar

namespace Document

variable (d : Document)

def asText (n : Node) : Reading String := do
  match ← d.follow n with
  | .scalar s => return s.text
  | _ => failure

def asNumber (n : Node) : Reading UInt64 := do
  match ← d.follow n with
  | .scalar s => s.number?
  | _ => failure

/-- What writes null, or nothing, leaves an optional setting unset. -/
def asSetting (n : Node) : Reading (Option Node) := do
  match ← d.follow n with
  | .scalar s => if ← s.isUnset? then return none else return some (.scalar s)
  | v => return some v

/-- The items of a sequence; a blank scalar is an empty one. -/
def asItems (n : Node) : Reading (List Node) := do
  match ← d.follow n with
  | .sequence items => return items
  | .scalar s => if s.isBlank then return [] else failure
  | _ => failure

def named (entries : List (Node × Node)) : Reading (List (String × Node)) :=
  entries.mapM fun (key, value) => return (← d.asText key, value)

def isDistinct (names : List String) (entries : List (String × Node)) : Bool :=
  names.all fun name => (entries.filter (·.1 == name)).length ≤ 1

/-- The entries of a mapping by their keys, which are texts; a blank scalar is an empty one. -/
def asRecord (names : List String) (n : Node) : Reading (List (String × Node)) := do
  match ← d.follow n with
  | .mapping entries =>
    let named ← d.named entries
    if isDistinct names named then return named else failure
  | .scalar s => if s.isBlank then return [] else failure
  | _ => failure

def view : View Reading Node := ⟨d.asText, d.asNumber, d.asSetting, d.asItems, d.asRecord⟩

end Document

end Yaml

end Sift

import Sift.Document.Basic
import Sift.Document.Fault
import Sift.Json.Reader
import Sift.Text.Blank

/-!
# Taking a document from JSON

A document is an object with up to six known keys, read in the order in which the object has them;
the first fault found is the one reported. A key that is absent or null holds an empty clause, and
unknown keys are ignored, so that other parameters may travel in the same object. A null is the
empty document, and so is a text of blanks.

Main statement: `ofJson_unknown`, an unknown key makes no difference.
-/

namespace Sift

def Json.asString : Json → Except DocumentFault String
  | .string s => .ok s
  | v => .error (.wrongType v .string)

def Json.asOptionalString : Json → Except DocumentFault (Option String)
  | .null => .ok none
  | v => v.asString.map some

def Json.asFields : Json → Except DocumentFault Fields
  | .object fields => .ok fields
  | v => .error (.wrongType v .map)

def Condition.ofItems : List Json → Except DocumentFault Condition
  | [.string field, value] => .ok ⟨field, none, value⟩
  | [.string field, .string operator, value] => .ok ⟨field, some operator, value⟩
  | [.string _, operator, _] => .error (.operatorNotText operator)
  | [field, _] => .error (.fieldNotText field)
  | [field, _, _] => .error (.fieldNotText field)
  | items => .error (.wrongEntryLength items.length)

def Condition.ofJson : Json → Except DocumentFault Condition
  | .array items => ofItems items
  | v => .error (.wrongType v .sequence)

namespace OrderEntry

/-- Takes one field of an object into what is known of a sort entry so far. -/
def takeField (known : Option String × Option String) :
    String × Json → Except DocumentFault (Option String × Option String)
  | (name, value) =>
    if name = "field" then value.asString.map fun s => (some s, known.2)
    else if name = "order" then value.asOptionalString.map fun o => (known.1, o)
    else .ok known

def ofFields (fields : Fields) : Except DocumentFault OrderEntry := do
  match ← fields.foldlM takeField (none, none) with
  | (some field, order) => return ⟨field, order⟩
  | (none, _) => throw (.missingField "field")

def ofItems : List Json → Except DocumentFault OrderEntry
  | [] => throw .orderEntryEmpty
  | [field] => return ⟨← field.asString, none⟩
  | [field, order] => return ⟨← field.asString, ← order.asOptionalString⟩
  | field :: order :: rest => do
    let _ ← field.asString
    let _ ← order.asOptionalString
    throw (.orderEntryTooLong (rest.length + 2))

/-- The sort entry a value is, written as an object or as an array. -/
def ofJson : Json → Except DocumentFault OrderEntry
  | .object fields => ofFields fields
  | .array items => ofItems items
  | v => .error (.wrongType v .orderEntry)

end OrderEntry

namespace Document

/-- The entries of a clause; null stands for none. -/
def entries {α : Type} (entry : Json → Except DocumentFault α) :
    Json → Except DocumentFault (List α)
  | .null => .ok []
  | .array items => items.mapM entry
  | v => .error (.wrongType v .sequence)

def clause? (key : String) : Option Clause :=
  [Clause.compare, .date, .isNull, .notNull, .between, .order].find? (·.key == key)

def takeClause (d : Document) (value : Json) : Clause → Except DocumentFault Document
  | .compare => (entries Condition.ofJson value).map ({ d with conditions := · })
  | .date => (entries Condition.ofJson value).map ({ d with dates := · })
  | .isNull => (entries Json.asString value).map ({ d with nulls := · })
  | .notNull => (entries Json.asString value).map ({ d with notNulls := · })
  | .between => (entries Json.asFields value).map ({ d with between := · })
  | .order => (entries OrderEntry.ofJson value).map ({ d with order := · })

/-- Takes one field of the object into a document. -/
def takeField (d : Document) (field : String × Json) : Except DocumentFault Document :=
  match clause? field.1 with
  | some c => d.takeClause field.2 c
  | none => .ok d

def ofJson : Json → Except DocumentFault Document
  | .null => .ok empty
  | .object fields => fields.foldlM takeField empty
  | v => .error (.notAnObject v)

/-- How many arrays and objects the text of a document may have open at once. -/
def nestingLimit : Nat := 127

def ofText (s : String) : Except DocumentFault Document :=
  if Text.allBlank s then
    .ok empty
  else
    match Json.ofText? nestingLimit s with
    | some v => ofJson v
    | none => .error .syntaxError

/-- A field under an unknown key makes no difference, wherever it stands. -/
theorem ofJson_unknown {key : String} (h : clause? key = none) (value : Json)
    (before after : Fields) :
    ofJson (.object (before ++ (key, value) :: after)) = ofJson (.object (before ++ after)) := by
  simp only [ofJson, List.foldlM_append, List.foldlM_cons]
  congr 1
  funext d
  simp [takeField, h, bind, Except.bind]

end Document

end Sift

import Mathlib.Data.List.Forall2
import Sift.Document.Decoding

/-!
# The grammar of filter documents

Which JSON values are filter documents, and which document a value writes, said without the reader.
A clause is a list of values of one form (`Clause.IsEntry`), or null, or left out; all other fields
of the object may hold anything. Documents have one way to write most of their entries, which is
then what the value has to hold. Only a sort entry is written as an object or as an array, and as an
object it may have more fields.

An object has one field of a name at most. Where a list of fields has several nonetheless, the
grammar asks all of them to be right, and the last one counts.
-/

namespace Sift

open List (Forall₂)

/-! ## Forms of values -/

namespace Json

def IsText (v : Json) : Prop := ∃ s, v = .string s

def IsTextOrNull (v : Json) : Prop := v = .null ∨ v.IsText

def IsObject (v : Json) : Prop := ∃ fields, v = .object fields

/-- The value is null or an array of values of one form. -/
def IsListOf (form : Json → Prop) (v : Json) : Prop :=
  v = .null ∨ ∃ items, v = .array items ∧ ∀ item ∈ items, form item

inductive IsCondition : Json → Prop
  | pair (field : String) (value : Json) : IsCondition (.array [.string field, value])
  | triple (field operator : String) (value : Json) :
      IsCondition (.array [.string field, .string operator, value])

inductive IsOrder : Json → Prop
  | object {fields : Fields} (hfield : ∃ x, ("field", x) ∈ fields)
      (hfields : ∀ x, ("field", x) ∈ fields → x.IsText)
      (horders : ∀ x, ("order", x) ∈ fields → x.IsTextOrNull) : IsOrder (.object fields)
  | field {x : Json} (h : x.IsText) : IsOrder (.array [x])
  | both {x y : Json} (hx : x.IsText) (hy : y.IsTextOrNull) : IsOrder (.array [x, y])

end Json

def Clause.IsEntry : Clause → Json → Prop
  | .compare | .date => Json.IsCondition
  | .isNull | .notNull => Json.IsText
  | .between => Json.IsObject
  | .order => Json.IsOrder

/-- The value is a document: null, or an object with lists of entries under the keys of the
clauses. -/
inductive Json.IsDocument : Json → Prop
  | null : IsDocument .null
  | object {fields : Fields}
      (h : ∀ (clause : Clause) x, (clause.key, x) ∈ fields → x.IsListOf clause.IsEntry) :
      IsDocument (.object fields)

/-! ## What a value writes -/

def Condition.written (c : Condition) : Json :=
  match c.operator with
  | none => .array [.string c.field, c.value]
  | some op => .array [.string c.field, .string op, c.value]

namespace Json

def text? : Json → Option String
  | .string s => some s
  | _ => none

def elements : Json → List Json
  | .array items => items
  | _ => []

/-- What the last field with a name holds. -/
def last? (name : String) (fields : Fields) : Option Json := fields.reverse.lookup name

/-- The elements of the list that an object holds under a key; none if it holds null or nothing. -/
def listed (key : String) : Json → List Json
  | .object fields => ((last? key fields).map elements).getD []
  | _ => []

end Json

/-- The value writes the sort entry. An order that is null is none. -/
def OrderEntry.WrittenAs (o : OrderEntry) : Json → Prop
  | .object fields => (Json.last? "field" fields).bind Json.text? = some o.field
      ∧ (Json.last? "order" fields).bind Json.text? = o.order
  | .array [field] => field.text? = some o.field ∧ o.order = none
  | .array [field, order] => field.text? = some o.field ∧ order.text? = o.order
  | _ => False

/-- The values are the entries of a clause of the document, in order. -/
def Clause.Lists (clause : Clause) (values : List Json) (d : Document) : Prop :=
  match clause with
  | .compare => values = d.conditions.map Condition.written
  | .date => values = d.dates.map Condition.written
  | .isNull => values = d.nulls.map .string
  | .notNull => values = d.notNulls.map .string
  | .between => values = d.between.map .object
  | .order => Forall₂ (fun v o => o.WrittenAs v) values d.order

/-- The document holds the entries that the value lists, and no others. -/
def Document.WrittenAs (d : Document) (v : Json) : Prop :=
  ∀ clause : Clause, clause.Lists (v.listed clause.key) d

/-! ## What does not matter -/

def OrderEntry.essential : Json → Json
  | .object fields => .object (fields.filter fun f => f.1 = "field" ∨ f.1 = "order")
  | v => v

/-- What a clause holds, without the fields of its entries that mean nothing. -/
def Clause.essential : Clause → Json → Json
  | .order, .array items => .array (items.map OrderEntry.essential)
  | _, v => v

/-- A document without the fields that mean nothing, neither of its own nor of its sort entries. -/
def Document.essential : Json → Json
  | .object fields => .object (fields.filterMap fun f =>
      (Document.clause? f.1).map fun clause => (f.1, clause.essential f.2))
  | v => v

end Sift

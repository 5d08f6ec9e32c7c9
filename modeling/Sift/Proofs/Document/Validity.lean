import Sift.Compile.Entry
import Sift.Compile.Plan

/-!
# Valid entries and their faults

Which entries of a filter document are valid, and what is wrong with the others, said of one entry
at a time and of nothing but the entry and the allow-list. `Entry.Fault` has one rule for each kind
of fault, and its hypotheses give their order: an operator is only at fault where the column is
allowed, and a value only where the operator is one of the closed set.

Malformed bounds are no fault. An entry of the range clause is valid as soon as its column is.

`Document.inOrder` lists the entries of all six clauses in the order in which they count.
-/

namespace Sift

/-! ## Operators and values -/

/-- The text spells the operator, blanks around it aside. Only `like` has letters, and their case
does not count. -/
def Operator.IsSpelled (op : Operator) (raw : String) : Prop :=
  match op with
  | .like => Text.eqIgnoreAsciiCase (Text.trim raw.toList) "like".toList = true
  | .notEqual => Text.trimText raw = "!=" ∨ Text.trimText raw = "<>"
  | op => Text.trimText raw = op.text

/-- The entry means the operator: it spells it out, or it is equality and the entry has none. -/
def Condition.Means (c : Condition) (op : Operator) : Prop :=
  match c.operator with
  | none => op = .equal
  | some raw => op.IsSpelled raw

def Json.IsScalar (value : Json) : Prop :=
  (∀ items, value ≠ .array items) ∧ ∀ fields, value ≠ .object fields

/-- The value is a text or a number, so that it writes a pattern. -/
def Json.WritesPattern (value : Json) : Prop :=
  (∃ s, value = .string s) ∨ ∃ n, value = .number n

/-- The value may stand behind the operator in the comparing clause. -/
inductive Comparable : Operator → Json → Prop
  | null {op : Operator} (h : op = .equal ∨ op = .notEqual) : Comparable op .null
  | pattern {value : Json} (h : value.WritesPattern) : Comparable .like value
  | scalar {op : Operator} {value : Json} (hop : op ≠ .like) (hnull : value ≠ .null)
      (h : value.IsScalar) : Comparable op value

/-- What is wrong with a value behind an operator in the comparing clause. -/
inductive ComparisonFault : Operator → Json → ValueFault → Prop
  | nullOrdered {op : Operator} (h : op ≠ .equal ∧ op ≠ .notEqual) :
      ComparisonFault op .null .nullOrdered
  | notPattern {value : Json} (hnull : value ≠ .null) (h : ¬ value.WritesPattern) :
      ComparisonFault .like value (.notPattern value.kind)
  | notScalar {op : Operator} {value : Json} (hop : op ≠ .like) (h : ¬ value.IsScalar) :
      ComparisonFault op value (.notScalar value.kind)

/-- The value may stand behind the operator in the clause on calendar days. -/
inductive ComparableDay : Operator → Json → Prop
  | pattern {value : Json} (h : value.WritesPattern) : ComparableDay .like value
  | day {op : Operator} {s : String} {day : Date} (hop : op ≠ .like)
      (h : Date.ofText? s = some day) : ComparableDay op (.string s)

inductive DayFault : Operator → Json → ValueFault → Prop
  | notPattern {value : Json} (h : ¬ value.WritesPattern) :
      DayFault .like value (.notPattern value.kind)
  | notDate {op : Operator} {value : Json} (hop : op ≠ .like)
      (h : ∀ s day, value = .string s → Date.ofText? s ≠ some day) : DayFault op value .notDate

/-! ## Entries -/

/-- An entry of a document, with the clause that it stands in. -/
inductive Entry where
  | compare (c : Condition)
  | isNull (field : String)
  | notNull (field : String)
  | date (c : Condition)
  | between (b : String × Json)
  | order (o : OrderEntry)

namespace Entry

def clause : Entry → Clause
  | .compare _ => .compare
  | .isNull _ => .isNull
  | .notNull _ => .notNull
  | .date _ => .date
  | .between _ => .between
  | .order _ => .order

def field : Entry → String
  | .compare c | .date c => c.field
  | .isNull field | .notNull field => field
  | .between b => b.1
  | .order o => o.field

/-- The comparison that the entry makes, if its clause is one that compares. -/
def condition? : Entry → Option Condition
  | .compare c | .date c => some c
  | _ => none

def Valid (allowed : FieldSet) (e : Entry) : Prop :=
  e.field ∈ allowed ∧
    match e with
    | .compare c => ∃ op, c.Means op ∧ Comparable op c.value
    | .date c => ∃ op, c.Means op ∧ ComparableDay op c.value
    | _ => True

inductive Fault (allowed : FieldSet) : Entry → CompileError → Prop
  | field {e : Entry} (h : e.field ∉ allowed) : Fault allowed e (.unknownField e.clause e.field)
  | operator {e : Entry} {c : Condition} {raw : String} (hfield : e.field ∈ allowed)
      (hc : e.condition? = some c) (hraw : c.operator = some raw)
      (h : ∀ op, ¬ Operator.IsSpelled op raw) : Fault allowed e (.unknownOperator e.clause raw)
  | value {c : Condition} {op : Operator} {fault : ValueFault} (hfield : c.field ∈ allowed)
      (hop : c.Means op) (h : ComparisonFault op c.value fault) :
      Fault allowed (.compare c) (.malformedEntry .compare c.field fault)
  | day {c : Condition} {op : Operator} {fault : ValueFault} (hfield : c.field ∈ allowed)
      (hop : c.Means op) (h : DayFault op c.value fault) :
      Fault allowed (.date c) (.malformedEntry .date c.field fault)

end Entry

/-- The entries of a document in the order in which they count: comparisons, the two null clauses,
days, bounds object by object and key by key, and sort entries. -/
def Document.inOrder (d : Document) : List Entry :=
  d.conditions.map .compare ++ d.nulls.map .isNull ++ d.notNulls.map .notNull ++ d.dates.map .date
    ++ d.between.flatten.map .between ++ d.order.map .order

end Sift

import Sift.Query
import Sift.Row.Filter

/-!
# What a filter document means

`Document.Admits` says of every row whether a filter document lets it through, entry by entry as a
client writes them, without a plan. It only looks at a row through its columns (`columnText?`,
`dayOf?`) and through the comparison of a column's value with an operand (`compareScalar`).

The entries of the first five clauses hold all together. The bounds of the range clause are the one
disjunction, and only those bounds count that are a pair of scalars other than null; a clause
without such a pair says nothing.
-/

namespace Sift

/-! ## Columns -/

def Absent (row : Json) (field : String) : Prop :=
  row.field? field = none ∨ row.field? field = some .null

/-- The text of a column that holds a string, a number or a truth value. -/
def columnText? (row : Json) (field : String) : Option String :=
  (row.field? field).bind Json.scalarText?

/-- The column holds a value that can be compared with the operand, and it lies to the operand as
the operator asks. -/
def Compares (row : Json) (field : String) (op : Operator) (operand : Scalar) : Prop :=
  ∃ value order, row.field? field = some value ∧ compareScalar value operand = some order
    ∧ op.accepts order = true

/-- The column lies between two operands, ends included. -/
def LiesBetween (row : Json) (field : String) (low high : Scalar) : Prop :=
  Compares row field .greaterOrEqual low ∧ Compares row field .lessOrEqual high

/-- The text is like the operand: the operand matches all of it as a pattern or, if it has no `%`,
matches with any run of characters on either side. -/
def Like.IsLike (operand text : String) : Prop :=
  if '%' ∈ operand.toList then
    Matches (symbols operand) (text.toList.map Text.foldCase)
  else
    Matches (.anyRun :: symbols operand ++ [.anyRun]) (text.toList.map Text.foldCase)

/-! ## Entries -/

def Json.operandText? : Json → Option String
  | .string s => some s
  | .number n => some n.text
  | _ => none

/-- The value is a pair of scalars other than null. -/
def IsPair (value : Json) (low high : Scalar) : Prop :=
  ∃ l h, value = .array [l, h] ∧ Scalar.ofJson? l = some low ∧ Scalar.ofJson? h = some high
    ∧ low ≠ .null ∧ high ≠ .null

namespace Condition

/-- The operator of an entry: the one it names, or equality if it names none. -/
def meantOperator? (c : Condition) : Option Operator :=
  match c.operator with
  | none => some .equal
  | some raw => Operator.ofText? raw

/-- The entry holds of a row. To equal null is to be missing or null. -/
def Holds (c : Condition) (row : Json) : Prop :=
  match c.meantOperator?, c.value with
  | some .equal, .null => Absent row c.field
  | some .notEqual, .null => ¬ Absent row c.field
  | some .like, value => ∃ operand text, value.operandText? = some operand
      ∧ columnText? row c.field = some text ∧ Like.IsLike operand text
  | some op, value => ∃ operand, Scalar.ofJson? value = some operand
      ∧ Compares row c.field op operand
  | none, _ => False

/-- The entry holds of the calendar day that a column of the row writes. -/
def HoldsOfDay (c : Condition) (row : Json) : Prop :=
  ∃ day, dayOf? row c.field = some day ∧
    match c.meantOperator? with
    | some .like => ∃ operand, c.value.operandText? = some operand ∧ Like.IsLike operand day.text
    | some op => ∃ s operand, c.value = .string s ∧ Date.ofText? s = some operand
        ∧ op.accepts (day.compare operand) = true
    | none => False

end Condition

/-! ## Documents -/

namespace Document

/-- The range clause lets the row through: none of its bounds is a pair, or the row lies within one
that is. -/
def AdmitsBetween (between : List Fields) (row : Json) : Prop :=
  (∀ fields ∈ between, ∀ b ∈ fields, ∀ low high, ¬ IsPair b.2 low high)
    ∨ ∃ fields ∈ between, ∃ b ∈ fields, ∃ low high, IsPair b.2 low high
      ∧ LiesBetween row b.1 low high

/-- The document lets a row through whose primary key is the column `key`. -/
structure Admits (d : Document) (key : String) (row : Json) : Prop where
  keyed : ¬ Absent row key
  conditions : ∀ c ∈ d.conditions, c.Holds row
  dates : ∀ c ∈ d.dates, c.HoldsOfDay row
  nulls : ∀ field ∈ d.nulls, Absent row field
  notNulls : ∀ field ∈ d.notNulls, ¬ Absent row field
  between : AdmitsBetween d.between row

/-- The document without the bounds of its range clause that are no pairs. -/
def withoutMalformed (d : Document) : Document :=
  { d with between := d.between.map (·.filter fun b => (Compile.bounds b.2).toBool) }

end Document

end Sift

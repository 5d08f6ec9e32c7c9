import Sift.Json.Basic

/-!
# Filter documents

A filter document is what a client sends to narrow down a search. Its six clauses are lists of
entries; here only their shape is settled, not whether a column, an operator or a value is
acceptable.
-/

namespace Sift

inductive Clause where
  | compare
  | date
  | isNull
  | notNull
  | between
  | order
  deriving DecidableEq, Repr

def Clause.key : Clause → String
  | .compare => "where"
  | .date => "whereDate"
  | .isNull => "whereNull"
  | .notNull => "whereNotNull"
  | .between => "whereBetween"
  | .order => "orderBy"

/-- An entry `[field, value]` or `[field, operator, value]` of a comparing clause. -/
structure Condition where
  field : String
  /-- Nothing stands for equality. -/
  operator : Option String
  value : Json

/-- A sort entry: a column and how the client spelled the direction. -/
structure OrderEntry where
  field : String
  order : Option String
  deriving DecidableEq

structure Document where
  conditions : List Condition
  dates : List Condition
  nulls : List String
  notNulls : List String
  /-- Bounds by column, one object per entry. Bounds stay as they were sent. -/
  between : List Fields
  order : List OrderEntry

namespace Document

def empty : Document := ⟨[], [], [], [], [], []⟩

def isEmpty (d : Document) : Bool :=
  d.conditions.isEmpty && d.dates.isEmpty && d.nulls.isEmpty && d.notNulls.isEmpty
    && d.between.isEmpty && d.order.isEmpty

end Document

/-! ### Equality of documents

Entries are equal when their columns and operators are spelled alike and their values mean the
same. -/

def Condition.same (a b : Condition) : Bool :=
  a.field == b.field && a.operator == b.operator && a.value.same b.value

def sameList {α : Type} (same : α → α → Bool) : List α → List α → Bool
  | [], [] => true
  | a :: as, b :: bs => same a b && sameList same as bs
  | _, _ => false

def Document.same (a b : Document) : Bool :=
  sameList Condition.same a.conditions b.conditions
    && sameList Condition.same a.dates b.dates
    && a.nulls == b.nulls && a.notNulls == b.notNulls
    && sameList (fun fs gs => (Json.object fs).same (.object gs)) a.between b.between
    && a.order == b.order

end Sift

import Sift.Row.Comparison

/-!
# The order of rows

Rows are sorted by the values in some columns. Values of one kind have their own order; values of
different kinds go truth values, numbers, texts, arrays and objects, and last nulls and missing
columns. Arrays and objects tie with one another.

Main statements: `compareRows_nil` and `compareRows_cons`, how sort keys combine.
-/

namespace Sift

/-- The place of a value among the kinds. A missing column ranks with null. -/
def kindRank : Option Json → Nat
  | some (.bool _) => 0
  | some (.number _) => 1
  | some (.string _) => 2
  | some (.array _) | some (.object _) => 3
  | some .null | none => 4

def compareValues : Option Json → Option Json → Ordering
  | some (.bool a), some (.bool b) => compare a b
  | some (.number a), some (.number b) => a.toBinary64.totalCompare b.toBinary64
  | some (.string a), some (.string b) => compareText a b
  | a, b => compare (kindRank a) (kindRank b)

def SortKey.compare (k : SortKey) (a b : Json) : Ordering :=
  k.direction.orient (compareValues (a.field? k.field) (b.field? k.field))

/-- The order of two rows: by the first key under which they differ. -/
def compareRows : List SortKey → Json → Json → Ordering
  | [], _, _ => .eq
  | k :: keys, a, b => (k.compare a b).then (compareRows keys a b)

theorem compareRows_nil (a b : Json) : compareRows [] a b = .eq := rfl

/-- A later key only counts between rows that tie under the keys before it. -/
theorem compareRows_cons (k : SortKey) (keys : List SortKey) (a b : Json) :
    compareRows (k :: keys) a b = (k.compare a b).then (compareRows keys a b) := rfl

/-- The rows in order; rows that tie keep the order they had. -/
def sortRows (keys : List SortKey) (rows : List Json) : List Json :=
  rows.mergeSort fun a b => compareRows keys a b != .gt

end Sift

import Sift.Row.Order

/-!
# The order of rows is a total preorder

`compareValues` looks at the kinds of two column values first and, within a kind, at what that kind
holds. So it is a lexicographic comparison of four keys of a value (`compareValues_eq`), each of
which is a constant outside its own kind. Every key lies in a linear order, hence the comparison is
oriented and transitive, and so is the comparison of rows by any list of sort keys.

Main statement: the instance `TransCmp (compareRows keys)`, which is all that sorting needs
(`rowLE_trans`, `rowLE_total`).
-/

namespace Sift

open Std

/-! ## Numbers -/

/-- The place of a number in the total order: its position, and one past all of them for what is
not a number. -/
def Binary64.totalKey : Binary64 → Int
  | .nan => infinityRank + 1
  | .number s r => totalPosition s r

/-- What is not a number comes after all numbers. -/
theorem Binary64.totalPosition_lt_totalKey_nan (s : Bool) (r : Fin (infinityRank + 1)) :
    totalPosition s r < totalKey .nan := by
  have hr := r.isLt
  show totalPosition s r < (infinityRank : Int) + 1
  unfold totalPosition
  split <;> omega

/-- The total order compares integer keys. -/
theorem Binary64.totalCompare_eq (a b : Binary64) :
    totalCompare a b = compare a.totalKey b.totalKey := by
  cases a with
  | nan =>
    cases b with
    | nan => simp [totalCompare, totalKey]
    | number t q =>
      have h := totalPosition_lt_totalKey_nan t q
      exact (Int.compare_eq_gt.mpr h).symm
  | number s r =>
    cases b with
    | nan =>
      have h := totalPosition_lt_totalKey_nan s r
      exact (Int.compare_eq_lt.mpr h).symm
    | number t q => rfl

instance : TransCmp Binary64.totalCompare := by
  have h : Binary64.totalCompare = compareOn Binary64.totalKey := by
    funext a b
    exact Binary64.totalCompare_eq a b
  rw [h]
  infer_instance

/-! ## Column values -/

/-- What a truth value is sorted by; a constant for all other values. -/
def boolKey : Option Json → Bool
  | some (.bool b) => b
  | _ => false

/-- What a number is sorted by; a constant for all other values. -/
def numberKey : Option Json → Binary64
  | some (.number n) => n.toBinary64
  | _ => .zero

/-- What a text is sorted by; a constant for all other values. -/
def textKey : Option Json → String
  | some (.string s) => s
  | _ => ""

/-- The order of two values by the number that each of them is, if it is one. -/
def compareNumberKey (a b : Option Json) : Ordering := (numberKey a).totalCompare (numberKey b)

instance : TransCmp compareNumberKey where
  eq_swap {a b} := by
    show (numberKey a).totalCompare (numberKey b) = ((numberKey b).totalCompare (numberKey a)).swap
    exact OrientedCmp.eq_swap
  isLE_trans {a b c} hab hbc := by
    show ((numberKey a).totalCompare (numberKey c)).isLE = true
    exact TransCmp.isLE_trans hab hbc

/-- The order of column values is lexicographic: the kind decides first, and of the other keys only
the one of the common kind is not constant. -/
theorem compareValues_eq :
    compareValues = compareLex (compareOn kindRank)
      (compareLex (compareOn boolKey) (compareLex compareNumberKey (compareOn textKey))) := by
  funext a b
  have hzero : Binary64.totalCompare .zero .zero = .eq := ReflCmp.compare_self
  rcases a with _ | _ | _ | _ | _ | _ | _ <;> rcases b with _ | _ | _ | _ | _ | _ | _ <;>
    simp [compareValues, compareLex, compareOn, kindRank, boolKey, compareNumberKey, numberKey,
      textKey, compareText, hzero, Nat.compare_eq_lt.mpr, Nat.compare_eq_gt.mpr]

instance : TransCmp compareValues := by
  rw [compareValues_eq]
  infer_instance

/-! ## Rows -/

instance (d : SortDirection) {α : Type} (cmp : α → α → Ordering) [TransCmp cmp] :
    TransCmp fun a b => d.orient (cmp a b) := by
  cases d with
  | ascending => exact inferInstanceAs (TransCmp cmp)
  | descending =>
    have h : (fun a b => SortDirection.descending.orient (cmp a b)) = fun a b => cmp b a := by
      funext a b
      show (cmp a b).swap = cmp b a
      exact OrientedCmp.eq_swap.symm
    rw [h]
    infer_instance

instance (k : SortKey) : TransCmp k.compare where
  eq_swap {a b} := by
    have h : TransCmp fun u v => k.direction.orient (compareValues u v) := inferInstance
    exact h.eq_swap
  isLE_trans {a b c} hab hbc := by
    have h : TransCmp fun u v => k.direction.orient (compareValues u v) := inferInstance
    exact h.isLE_trans hab hbc

instance (keys : List SortKey) : TransCmp (compareRows keys) := by
  induction keys with
  | nil =>
    exact { eq_swap := rfl
            isLE_trans := fun _ _ => rfl }
  | cons k keys ih => exact inferInstanceAs (TransCmp (compareLex k.compare (compareRows keys)))

/-- Whether a row may stand before another in the sorted result. -/
abbrev rowLE (keys : List SortKey) (a b : Json) : Bool := compareRows keys a b != .gt

theorem rowLE_iff (keys : List SortKey) (a b : Json) :
    rowLE keys a b = true ↔ (compareRows keys a b).isLE = true := by
  cases h : compareRows keys a b <;> simp [rowLE, h]

/-- The order of rows is transitive, as the sort needs it. -/
theorem rowLE_trans (keys : List SortKey) (a b c : Json) (hab : rowLE keys a b = true)
    (hbc : rowLE keys b c = true) : rowLE keys a c = true := by
  rw [rowLE_iff] at hab hbc ⊢
  exact TransCmp.isLE_trans hab hbc

/-- Of any two rows, one may stand before the other. -/
theorem rowLE_total (keys : List SortKey) (a b : Json) :
    (rowLE keys a b || rowLE keys b a) = true := by
  have h : compareRows keys b a = (compareRows keys a b).swap := OrientedCmp.eq_swap
  cases hab : compareRows keys a b <;> simp [rowLE, hab, h]

end Sift

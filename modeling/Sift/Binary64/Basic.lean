/-!
# Binary floating-point numbers of 64 bits

A `Binary64` is either not a number or a signed *rank*: the position of its absolute value among
the non-negative numbers of the format, counted from zero. Ranks grow with the value, so both
orders on the format are orders on integers:

* `compare?` is the numeric order. It is undefined as soon as one side is not a number, and the two
  zeros are equal.
* `totalCompare` is the total order of the standard on numbers. It puts `-0.0` before `0.0`.

Main statements: `compare?_isSome_iff`, `compare?_swap`, and `totalCompare_eq_lt_of_compare?`, the
agreement of the two orders.
-/

namespace Sift

/-- The rank of infinity: the largest exponent over an empty fraction of 52 bits. -/
def infinityRank : Nat := 2047 <<< 52

/-- A floating-point number of 64 bits, or no number. -/
inductive Binary64 where
  | nan
  | number (negative : Bool) (rank : Fin (infinityRank + 1))
  deriving DecidableEq, Repr

namespace Binary64

/-- The number with the given sign whose absolute value has rank `n`, infinity if there is none. -/
def ofRank (negative : Bool) (n : Nat) : Binary64 :=
  .number negative ⟨min n infinityRank, by omega⟩

def zero : Binary64 := ofRank false 0

def infinity (negative : Bool) : Binary64 := ofRank negative infinityRank

def negate : Binary64 → Binary64
  | .nan => .nan
  | .number s r => .number (!s) r

def isFinite : Binary64 → Bool
  | .nan => false
  | .number _ r => r.val < infinityRank

def isZero : Binary64 → Bool
  | .nan => false
  | .number _ r => r.val == 0

/-! ### The two orders -/

/-- The position of a signed rank on the number line, where both zeros lie at zero. -/
def linePosition (negative : Bool) (rank : Nat) : Int := if negative then -rank else rank

/-- The position of a signed rank when the zeros are told apart. -/
def totalPosition (negative : Bool) (rank : Nat) : Int := if negative then -rank - 1 else rank

/-- The numeric order, undefined where a side is not a number. -/
def compare? : Binary64 → Binary64 → Option Ordering
  | .number s r, .number t q => some (compare (linePosition s r) (linePosition t q))
  | _, _ => none

/-- The total order: the numbers by value, `-0.0` before `0.0`, and what is not a number last. -/
def totalCompare : Binary64 → Binary64 → Ordering
  | .number s r, .number t q => compare (totalPosition s r) (totalPosition t q)
  | .number _ _, .nan => .lt
  | .nan, .number _ _ => .gt
  | .nan, .nan => .eq

def sameValue (a b : Binary64) : Bool := compare? a b == some .eq

/-- Two numbers can be compared unless one of them is not a number. -/
theorem compare?_isSome_iff (a b : Binary64) : (compare? a b).isSome ↔ a ≠ .nan ∧ b ≠ .nan := by
  cases a <;> cases b <;> simp [compare?]

theorem compare?_swap (a b : Binary64) : (compare? a b).map Ordering.swap = compare? b a := by
  cases a <;> cases b <;> simp [compare?, Int.compare_swap]

/-- The total order puts no two numbers the other way round than the partial one. -/
theorem totalCompare_eq_lt_of_compare? {a b : Binary64} (h : compare? a b = some .lt) :
    totalCompare a b = .lt := by
  cases a with
  | nan => simp [compare?] at h
  | number s r =>
    cases b with
    | nan => simp [compare?] at h
    | number t q =>
      simp only [compare?, Option.some.injEq, Int.compare_eq_lt] at h
      simp only [totalCompare, Int.compare_eq_lt]
      cases s <;> cases t <;> simp [linePosition, totalPosition] at h ⊢ <;> omega

end Binary64

end Sift

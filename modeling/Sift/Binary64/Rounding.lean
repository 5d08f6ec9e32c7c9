import Sift.Binary64.Basic

/-!
# Rounding to the nearest number

`ofRatio` rounds an exact ratio to the nearest number of the format, a tie going to the even
neighbour. Every other way into the format goes through it: integers, products and quotients of
numbers, and decimal numerals.

A number of rank `r` below infinity has the value `significand * 2 ^ exponent`, where
`r = (exponent + 1074) * 2 ^ 52 + significand` and the significand stays below `2 ^ 53`.
-/

namespace Sift.Binary64

/-- The quotient of two naturals rounded to the nearest natural, a half to the even one. -/
def roundHalfEven (num den : Nat) : Nat :=
  let q := num / den
  let r := num % den
  if 2 * r < den || (2 * r == den && q % 2 == 0) then q else q + 1

/-- The rounded quotient is at most one half away from the quotient. -/
theorem roundHalfEven_near {num den : Nat} (h : 0 < den) :
    2 * (roundHalfEven num den * den) ≤ 2 * num + den ∧
      2 * num ≤ 2 * (roundHalfEven num den * den) + den := by
  have hd : den * (num / den) + num % den = num := Nat.div_add_mod num den
  have hm : num % den < den := Nat.mod_lt num h
  have hc : num / den * den = den * (num / den) := Nat.mul_comm _ _
  unfold roundHalfEven
  simp only [Bool.or_eq_true, decide_eq_true_eq, Bool.and_eq_true, beq_iff_eq]
  split
  · omega
  · rw [Nat.add_mul]; omega

/-- The largest `k` with `2 ^ k ≤ num / den`, for a positive ratio. -/
def floorLog2 (num den : Nat) : Int :=
  let k : Int := (Nat.log2 num : Int) - Nat.log2 den
  if num <<< (-k).toNat < den <<< k.toNat then k - 1 else k

def ofRatio (negative : Bool) (num den : Nat) : Binary64 :=
  if num = 0 then
    ofRank negative 0
  else
    let exponent := max (-1074) (floorLog2 num den - 52)
    let significand := roundHalfEven (num <<< (-exponent).toNat) (den <<< exponent.toNat)
    ofRank negative (((exponent + 1074).toNat <<< 52) + significand)

def ofInt (i : Int) : Binary64 := ofRatio (i < 0) i.natAbs 1

/-- The significand and the exponent of the absolute value of rank `r`. -/
def decode (r : Nat) : Nat × Int :=
  let e : Nat := r / (1 <<< 52)
  let f : Nat := r % (1 <<< 52)
  if e = 0 then (f, -1074) else ((1 <<< 52) + f, (e : Int) - 1075)

def ratio (r : Nat) : Nat × Nat :=
  let (m, q) := decode r
  (m <<< q.toNat, 1 <<< (-q).toNat)

/-- The nearest number to `digits * 10 ^ exponent`. The powers that are written out stay small,
because a numeral far outside the range is known to be infinite or zero beforehand. -/
def ofDecimal (negative : Bool) (digits : Nat) (exponent : Int) : Binary64 :=
  let size : Int := (Nat.toDigits 10 digits).length + exponent
  if digits = 0 || size < -330 then
    ofRank negative 0
  else if 310 < size then
    infinity negative
  else
    ofRatio negative (digits * Nat.pow 10 exponent.toNat) (Nat.pow 10 (-exponent).toNat)

/-- The product of two numbers, rounded; of two infinities or with no number it is no number. -/
def mul : Binary64 → Binary64 → Binary64
  | .number s r, .number t q =>
    if r.val < infinityRank && q.val < infinityRank then
      let (a, b) := ratio r
      let (c, d) := ratio q
      ofRatio (s != t) (a * c) (b * d)
    else if r.val == 0 || q.val == 0 then .nan
    else infinity (s != t)
  | _, _ => .nan

def div : Binary64 → Binary64 → Binary64
  | .number s r, .number t q =>
    if q.val < infinityRank && q.val != 0 then
      if r.val < infinityRank then
        let (a, b) := ratio r
        let (c, d) := ratio q
        ofRatio (s != t) (a * d) (b * c)
      else infinity (s != t)
    else if q.val == 0 then (if r.val == 0 then .nan else infinity (s != t))
    else if r.val < infinityRank then ofRank (s != t) 0
    else .nan
  | _, _ => .nan

end Sift.Binary64

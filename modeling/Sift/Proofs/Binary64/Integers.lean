import Mathlib.Algebra.Group.Nat.Defs
import Sift.Binary64.Rounding
import Sift.Proofs.Row.Preorder

/-!
# Integers in the floating-point format

An integer is read as the number of the format that is nearest to it. Its rank is found from its
leading bit and from its significand, which is rounded where the integer has more than 53 bits
(`ofInt_eq`). Rounding keeps the order, so two integers compare in the format as they do by
themselves, unless they are read as one number. Integers below `2 ^ 53` in absolute value have a
number for themselves.

Main statements: `compare?_ofInt` and `eq_of_ofInt_eq`.
-/

namespace Sift.Binary64

/-! ## Rounding keeps the order -/

/-- Rounding keeps the order of quotients with the same denominator. -/
theorem roundHalfEven_mono {num num' den : Nat} (hden : 0 < den) (h : num ≤ num') :
    roundHalfEven num den ≤ roundHalfEven num' den := by
  rcases Nat.eq_or_lt_of_le h with rfl | hlt
  · exact Nat.le_refl _
  · have hlow : 2 * (roundHalfEven num den * den) ≤ 2 * num + den := (roundHalfEven_near hden).1
    have hhigh : 2 * num' ≤ 2 * (roundHalfEven num' den * den) + den :=
      (roundHalfEven_near hden).2
    apply Nat.le_of_not_lt
    intro hcontra
    -- A whole step down would be more than two roundings of half a step.
    have hstep : (roundHalfEven num' den + 1) * den ≤ roundHalfEven num den * den :=
      Nat.mul_le_mul_right den hcontra
    rw [Nat.succ_mul] at hstep
    omega

/-- A quotient that needs no rounding is left as it is. -/
theorem roundHalfEven_mul {den : Nat} (hden : 0 < den) (q : Nat) :
    roundHalfEven (q * den) den = q := by
  simp [roundHalfEven, hden]

/-! ## Naturals -/

def naturalSignificand (n : Nat) : Nat := roundHalfEven (n <<< (52 - n.log2)) (1 <<< (n.log2 - 52))

def naturalRank (n : Nat) : Nat :=
  if n = 0 then 0 else ((n.log2 + 1022) <<< 52) + naturalSignificand n

theorem floorLog2_one {n : Nat} (hn : n ≠ 0) : floorLog2 n 1 = n.log2 := by
  have hle := Nat.log2_self_le hn
  have hone : Nat.log2 1 = 0 := by decide
  simp [floorLog2, hone, Nat.shiftLeft_eq]
  omega

/-- An integer is rounded by its absolute value and then given its sign. -/
theorem ofInt_eq (i : Int) : ofInt i = ofRank (i < 0) (naturalRank i.natAbs) := by
  unfold ofInt ofRatio naturalRank
  by_cases hi : i.natAbs = 0
  · have hi : i = 0 := Int.natAbs_eq_zero.mp hi
    simp [hi]
  · have hexponent : max (-1074) (floorLog2 i.natAbs 1 - 52) = (i.natAbs.log2 : Int) - 52 := by
      rw [floorLog2_one hi]
      omega
    have hfraction : (-((i.natAbs.log2 : Int) - 52)).toNat = 52 - i.natAbs.log2 := by omega
    have hwhole : ((i.natAbs.log2 : Int) - 52).toNat = i.natAbs.log2 - 52 := by omega
    have hbias : ((i.natAbs.log2 : Int) - 52 + 1074).toNat = i.natAbs.log2 + 1022 := by omega
    simp only [hi, if_false, hexponent, hfraction, hwhole, hbias, naturalSignificand]

/-- The significand of a natural has 53 bits, or is the power that comes after these. -/
theorem naturalSignificand_bounds {n : Nat} (hn : n ≠ 0) :
    2 ^ 52 ≤ naturalSignificand n ∧ naturalSignificand n ≤ 2 ^ 53 := by
  have hlow := Nat.log2_self_le hn
  have hhigh := Nat.lt_log2_self (n := n)
  unfold naturalSignificand
  rw [Nat.shiftLeft_eq, Nat.shiftLeft_eq, Nat.one_mul]
  generalize n.log2 = k at *
  have hden : 0 < 2 ^ (k - 52) := Nat.two_pow_pos _
  -- Shifted by either exponent, the leading bit is bit 52 of the quotient.
  have hlead : 2 ^ 52 * 2 ^ (k - 52) ≤ n * 2 ^ (52 - k) := by
    calc 2 ^ 52 * 2 ^ (k - 52)
      _ = 2 ^ k * 2 ^ (52 - k) := by rw [← Nat.pow_add, ← Nat.pow_add]; congr 1; omega
      _ ≤ n * 2 ^ (52 - k) := Nat.mul_le_mul_right _ hlow
  have hnext : n * 2 ^ (52 - k) < 2 ^ 53 * 2 ^ (k - 52) := by
    calc n * 2 ^ (52 - k)
      _ < 2 ^ (k + 1) * 2 ^ (52 - k) := Nat.mul_lt_mul_of_pos_right hhigh (Nat.two_pow_pos _)
      _ = 2 ^ 53 * 2 ^ (k - 52) := by rw [← Nat.pow_add, ← Nat.pow_add]; congr 1; omega
  constructor
  · have hbound := roundHalfEven_mono hden hlead
    rwa [roundHalfEven_mul hden] at hbound
  · have hbound := roundHalfEven_mono hden (Nat.le_of_lt hnext)
    rwa [roundHalfEven_mul hden] at hbound

/-- The rank of a natural in closed form: the exponent counts binades, the significand goes on
top. -/
theorem naturalRank_of_ne_zero {n : Nat} (hn : n ≠ 0) :
    naturalRank n = (n.log2 + 1022) * 2 ^ 52 + naturalSignificand n := by
  rw [naturalRank, if_neg hn, Nat.shiftLeft_eq]

theorem naturalRank_pos {n : Nat} (hn : n ≠ 0) : 0 < naturalRank n := by
  have hlow := (naturalSignificand_bounds hn).1
  rw [naturalRank_of_ne_zero hn]
  omega

/-- Naturals with leading bits in different places: the significand of the smaller one does not
reach the ranks of the other. -/
theorem naturalRank_le_of_log2_lt {n m : Nat} (hn : n ≠ 0) (h : n.log2 < m.log2) :
    naturalRank n + (2 ^ 53 - naturalSignificand n) ≤ naturalRank m := by
  have hm : m ≠ 0 := by
    rintro rfl
    simp at h
  have hhigh := (naturalSignificand_bounds hn).2
  have hlow := (naturalSignificand_bounds hm).1
  rw [naturalRank_of_ne_zero hn, naturalRank_of_ne_zero hm]
  omega

theorem log2_le_of_le {n m : Nat} (hn : n ≠ 0) (h : n ≤ m) : n.log2 ≤ m.log2 := by
  have hm : m ≠ 0 := by omega
  exact (Nat.le_log2 hm).mpr (Nat.le_trans (Nat.log2_self_le hn) h)

/-- A larger natural is never rounded to a smaller number. -/
theorem naturalRank_mono {n m : Nat} (h : n ≤ m) : naturalRank n ≤ naturalRank m := by
  by_cases hn : n = 0
  · simp [hn, naturalRank]
  have hm : m ≠ 0 := by omega
  rcases Nat.eq_or_lt_of_le (log2_le_of_le hn h) with hlog | hlog
  -- In one binade the significands decide, which are rounded at the same place.
  · rw [naturalRank_of_ne_zero hn, naturalRank_of_ne_zero hm, naturalSignificand,
      naturalSignificand, hlog]
    have hden : 0 < 1 <<< (m.log2 - 52) := by
      rw [Nat.one_shiftLeft]
      exact Nat.two_pow_pos _
    have hnum : n <<< (52 - m.log2) ≤ m <<< (52 - m.log2) := by
      rw [Nat.shiftLeft_eq, Nat.shiftLeft_eq]
      exact Nat.mul_le_mul_right _ h
    exact Nat.add_le_add_left (roundHalfEven_mono hden hnum) _
  -- In different binades the exponents decide, even if the smaller one is rounded up into the next.
  · have hhigh := (naturalSignificand_bounds hn).2
    have := naturalRank_le_of_log2_lt hn hlog
    omega

/-- A natural of at most 53 bits is not rounded. -/
theorem naturalSignificand_of_lt {n : Nat} (hn : n ≠ 0) (h : n < 2 ^ 53) :
    naturalSignificand n = n * 2 ^ (52 - n.log2) := by
  have hlog : n.log2 < 53 := (Nat.log2_lt hn).mpr h
  have hwhole : n.log2 - 52 = 0 := by omega
  rw [naturalSignificand, hwhole, Nat.shiftLeft_zero, Nat.shiftLeft_eq]
  have hunrounded := roundHalfEven_mul Nat.one_pos (n * 2 ^ (52 - n.log2))
  rwa [Nat.mul_one] at hunrounded

/-- So it has its rank for itself. -/
theorem naturalRank_lt {n m : Nat} (h : n < m) (hsmall : n < 2 ^ 53) :
    naturalRank n < naturalRank m := by
  have hm : m ≠ 0 := by omega
  by_cases hn : n = 0
  · rw [hn, naturalRank, if_pos rfl]
    exact naturalRank_pos hm
  have hlog : n.log2 < 53 := (Nat.log2_lt hn).mpr hsmall
  have hsig := naturalSignificand_of_lt hn hsmall
  rcases Nat.eq_or_lt_of_le (log2_le_of_le hn (Nat.le_of_lt h)) with hsame | hless
  · -- One leading bit, so `m` is not rounded either.
    have hm53 : m < 2 ^ 53 := (Nat.log2_lt hm).mp (hsame ▸ hlog)
    rw [naturalRank_of_ne_zero hn, naturalRank_of_ne_zero hm, hsig,
      naturalSignificand_of_lt hm hm53, hsame]
    exact Nat.add_lt_add_left (Nat.mul_lt_mul_of_pos_right h (Nat.two_pow_pos _)) _
  · have hnext : n * 2 ^ (52 - n.log2) < 2 ^ 53 := by
      calc n * 2 ^ (52 - n.log2)
        _ < 2 ^ (n.log2 + 1) * 2 ^ (52 - n.log2) :=
          Nat.mul_lt_mul_of_pos_right Nat.lt_log2_self (Nat.two_pow_pos _)
        _ = 2 ^ 53 := by rw [← Nat.pow_add]; congr 1; omega
    have := naturalRank_le_of_log2_lt hn hless
    omega

/-! ## Integers -/

/-- The place of an integer's number on the line. -/
def integerPosition (i : Int) : Int :=
  linePosition (i < 0) (min (naturalRank i.natAbs) infinityRank)

/-- Two rounded integers always compare, and they do so by their positions on the line. -/
theorem compare?_ofInt_eq (a b : Int) :
    compare? (ofInt a) (ofInt b) = some (compare (integerPosition a) (integerPosition b)) := by
  rw [ofInt_eq, ofInt_eq]
  rfl

theorem integerPosition_neg_iff {i : Int} : integerPosition i < 0 ↔ i < 0 := by
  unfold integerPosition linePosition
  by_cases hi : i < 0
  · have hrank : 0 < naturalRank i.natAbs := naturalRank_pos (by omega)
    have hinfinity : 0 < infinityRank := by decide
    simp only [hi, decide_true, if_true, iff_true]
    omega
  · simp only [hi, decide_false, Bool.false_eq_true, if_false, iff_false]
    omega

/-- Integers at one place have one sign and one rank. -/
theorem of_integerPosition_eq {a b : Int} (h : integerPosition a = integerPosition b) :
    (a < 0 ↔ b < 0) ∧
      min (naturalRank a.natAbs) infinityRank = min (naturalRank b.natAbs) infinityRank := by
  have hneg : a < 0 ↔ b < 0 := by
    calc a < 0
      _ ↔ integerPosition a < 0 := integerPosition_neg_iff.symm
      _ ↔ integerPosition b < 0 := by rw [h]
      _ ↔ b < 0 := integerPosition_neg_iff
  refine ⟨hneg, ?_⟩
  have hsign : decide (a < 0) = decide (b < 0) := decide_eq_decide.mpr hneg
  unfold integerPosition linePosition at h
  rw [hsign] at h
  split at h <;> omega

/-- The position of an integer says exactly which others are rounded to the same number. -/
theorem ofInt_eq_ofInt_iff {a b : Int} :
    ofInt a = ofInt b ↔ integerPosition a = integerPosition b := by
  constructor
  · intro h
    have hself : compare? (ofInt a) (ofInt b) = some .eq := by
      rw [h, compare?_ofInt_eq, Int.compare_eq_eq.mpr rfl]
    rw [compare?_ofInt_eq] at hself
    exact Int.compare_eq_eq.mp (Option.some.inj hself)
  · intro h
    obtain ⟨hneg, hrank⟩ := of_integerPosition_eq h
    rw [ofInt_eq, ofInt_eq]
    simp only [ofRank, Binary64.number.injEq, Fin.mk.injEq, decide_eq_decide]
    exact ⟨hneg, hrank⟩

/-- Rounding keeps the order of integers, though not their differences. -/
theorem integerPosition_mono {a b : Int} (h : a ≤ b) : integerPosition a ≤ integerPosition b := by
  unfold integerPosition linePosition
  by_cases ha : a < 0
  · by_cases hb : b < 0
    · have hrank := naturalRank_mono (show b.natAbs ≤ a.natAbs by omega)
      simp only [ha, hb, decide_true, if_true]
      omega
    · simp only [ha, hb, decide_true, decide_false, if_true, Bool.false_eq_true, if_false]
      omega
  · have hb : ¬ b < 0 := by omega
    have hrank := naturalRank_mono (show a.natAbs ≤ b.natAbs by omega)
    simp only [ha, hb, decide_false, Bool.false_eq_true, if_false]
    omega

/-- The order of integers as far as the format tells them apart. -/
def integerCompare (a b : Int) : Ordering := if ofInt a = ofInt b then .eq else compare a b

theorem compare?_ofInt (a b : Int) : compare? (ofInt a) (ofInt b) = some (integerCompare a b) := by
  rw [compare?_ofInt_eq, integerCompare]
  congr 1
  by_cases heq : ofInt a = ofInt b
  · rw [if_pos heq, ofInt_eq_ofInt_iff.mp heq]
    exact Std.ReflCmp.compare_self
  · rw [if_neg heq]
    have hne : integerPosition a ≠ integerPosition b := fun h => heq (ofInt_eq_ofInt_iff.mpr h)
    -- Rounding keeps the order, and as the two are told apart it keeps it strictly.
    rcases Int.lt_trichotomy a b with hab | rfl | hab
    · have hle := integerPosition_mono (Int.le_of_lt hab)
      rw [Int.compare_eq_lt.mpr hab, Int.compare_eq_lt]
      omega
    · exact absurd rfl hne
    · have hle := integerPosition_mono (Int.le_of_lt hab)
      rw [Int.compare_eq_gt.mpr hab, Int.compare_eq_gt]
      omega

/-- The total order agrees: an integer is never read as `-0.0`. -/
theorem totalCompare_ofInt (a b : Int) :
    totalCompare (ofInt a) (ofInt b) = integerCompare a b := by
  have hab := compare?_ofInt a b
  have hba := compare?_ofInt b a
  unfold integerCompare at *
  by_cases heq : ofInt a = ofInt b
  · rw [if_pos heq, heq]
    exact Std.ReflCmp.compare_self
  · rw [if_neg heq] at hab ⊢
    rw [if_neg (Ne.symm heq)] at hba
    rcases Int.lt_trichotomy a b with hlt | rfl | hlt
    · rw [Int.compare_eq_lt.mpr hlt] at hab ⊢
      exact totalCompare_eq_lt_of_compare? hab
    · exact absurd rfl heq
    · rw [Int.compare_eq_lt.mpr hlt] at hba
      rw [Int.compare_eq_gt.mpr hlt]
      exact Std.OrientedCmp.gt_of_lt (totalCompare_eq_lt_of_compare? hba)

/-- Rounding changes how two integers compare only where it makes them equal. -/
theorem integerCompare_eq_compare_iff {a b : Int} :
    integerCompare a b = compare a b ↔ (ofInt a = ofInt b → a = b) := by
  unfold integerCompare
  by_cases heq : ofInt a = ofInt b
  · simp [heq, eq_comm (a := Ordering.eq)]
  · simp [heq]

theorem integerCompare_ne_lt_iff {a b : Int} :
    integerCompare a b ≠ .lt ↔ b ≤ a ∨ ofInt a = ofInt b := by
  unfold integerCompare
  by_cases heq : ofInt a = ofInt b
  · simp [heq]
  · rw [if_neg heq, Ne, Int.compare_eq_lt, Int.not_lt, or_iff_left heq]

theorem integerCompare_ne_gt_iff {a b : Int} :
    integerCompare a b ≠ .gt ↔ a ≤ b ∨ ofInt a = ofInt b := by
  unfold integerCompare
  by_cases heq : ofInt a = ofInt b
  · simp [heq]
  · rw [if_neg heq, Ne, Int.compare_eq_gt, Int.not_lt, or_iff_left heq]

/-- No natural below `2 ^ 53` comes near the infinities. -/
theorem naturalRank_lt_infinityRank {n : Nat} (h : n < 2 ^ 53) : naturalRank n < infinityRank := by
  have hlt := naturalRank_lt h h
  have hnext : naturalRank (2 ^ 53) = 1076 * 2 ^ 52 := by decide +kernel
  have hinfinity : infinityRank = 2047 * 2 ^ 52 := by decide +kernel
  omega

/-- An integer below `2 ^ 53` in absolute value shares its number with no other integer. -/
theorem eq_of_ofInt_eq {a b : Int} (hb : b.natAbs < 2 ^ 53) (h : ofInt a = ofInt b) : a = b := by
  obtain ⟨hneg, hmin⟩ := of_integerPosition_eq (ofInt_eq_ofInt_iff.mp h)
  have hfinite := naturalRank_lt_infinityRank hb
  have hrank : naturalRank a.natAbs = naturalRank b.natAbs := by omega
  -- The rank of `b` belongs to no other natural.
  have habs : a.natAbs = b.natAbs := by
    rcases Nat.lt_trichotomy a.natAbs b.natAbs with hlt | heq | hlt
    · have := naturalRank_lt hlt (Nat.lt_trans hlt hb)
      omega
    · exact heq
    · have := naturalRank_lt hlt hb
      omega
  omega

end Sift.Binary64

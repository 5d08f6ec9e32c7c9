import Sift.Text.CaseFold

/-!
# Case folding and ASCII

Simple case folding goes beyond ASCII. Among the ASCII characters it only takes capitals to small
letters, but two other characters fold into ASCII as well, the long s and the Kelvin sign
(`isAscii_foldCase_iff`). For texts and patterns without them, case does not matter to simple case
folding exactly if it does not matter in ASCII.

Main statement: `isAscii_foldCase_iff`.
-/

namespace Sift.Text

def IsAscii (c : Char) : Prop := c.toNat < 128

instance (c : Char) : Decidable (IsAscii c) := inferInstanceAs (Decidable (c.toNat < 128))

def IsAsciiText (s : String) : Prop := ∀ c ∈ s.toList, IsAscii c

instance (s : String) : Decidable (IsAsciiText s) := List.decidableBAll IsAscii s.toList

theorem isAscii_of_isDigit {c : Char} (h : c.isDigit = true) : IsAscii c := by
  simp only [Char.isDigit, Bool.and_eq_true, decide_eq_true_eq] at h
  have hle := UInt32.le_iff_toNat_le.mp h.2
  exact Nat.lt_of_le_of_lt hle (by decide)

/-- On ASCII, folding is lower case. -/
theorem foldCase_of_isAscii {c : Char} (h : IsAscii c) : foldCase c = c.toLower := if_pos h

/-- What holds of the first 128 characters holds of every ASCII character. -/
theorem forall_isAscii {P : Char → Prop} (h : ∀ n < 128, P (Char.ofNat n)) {c : Char}
    (hc : IsAscii c) : P c := by
  have := h c.toNat hc
  rwa [Char.ofNat_toNat] at this

theorem isAscii_toLower {c : Char} (h : IsAscii c) : IsAscii c.toLower :=
  forall_isAscii (P := fun c => IsAscii c.toLower) (by decide +kernel) h

theorem isAscii_of_toLower {c : Char} (h : IsAscii c.toLower) : IsAscii c := by
  unfold Char.toLower at h
  split at h
  · next hc =>
    have hle := UInt32.le_iff_toNat_le.mp hc.2
    exact Nat.lt_of_le_of_lt hle (by decide)
  · exact h

/-- What a run folds to, for the runs that do not reach down to ASCII. -/
def FoldRun.StaysAbove (r : FoldRun) : Prop :=
  128 ≤ r.first + r.offset ∧ r.last + r.offset < 0xD800
    ∨ 0xDFFF < r.first + r.offset ∧ r.last + r.offset < 0x110000

instance (r : FoldRun) : Decidable r.StaysAbove := by
  unfold FoldRun.StaysAbove
  infer_instance

/-- Of the runs of foldings, two characters alone lead from outside into ASCII. -/
theorem staysAbove_of_mem {r : FoldRun} (h : r ∈ foldRuns) :
    r.last < 128 ∨ r.first = 0x17F ∧ r.last = 0x17F ∨ r.first = 0x212A ∧ r.last = 0x212A
      ∨ r.StaysAbove := by
  revert r
  decide +kernel

/-- A character folds into ASCII if it is ASCII, the long s or the sign for Kelvin. -/
theorem isAscii_foldCase_iff {c : Char} :
    IsAscii (foldCase c) ↔ IsAscii c ∨ c = 'ſ' ∨ c = '\u212A' := by
  constructor
  · intro h
    by_cases hc : IsAscii c
    · exact .inl hc
    have hlarge : ¬ c.toNat < 128 := hc
    rw [foldCase, if_neg hlarge] at h
    split at h
    · next r hr =>
      have hcovers := List.find?_some hr
      simp only [FoldRun.covers, Bool.and_eq_true, decide_eq_true_eq] at hcovers
      have hchar {n : Nat} (hfirst : r.first = n) (hlast : r.last = n) : c = Char.ofNat n := by
        rw [← Char.ofNat_toNat c]
        congr 1
        omega
      -- The character lies in a run of foldings, and that run is of one of four kinds.
      rcases staysAbove_of_mem (List.mem_of_find?_eq_some hr) with hlast | hlong | hkelvin | habove
      · omega
      · exact .inr (.inl (hchar hlong.1 hlong.2))
      · exact .inr (.inr (hchar hkelvin.1 hkelvin.2))
      · unfold FoldRun.StaysAbove at habove
        -- What the run folds to is a character, so it is the number that counts.
        have hvalid : ((c.toNat : Int) + r.offset).toNat.isValidChar := by
          unfold Nat.isValidChar
          omega
        have htoNat : (Char.ofNat ((c.toNat : Int) + r.offset).toNat).toNat
            = ((c.toNat : Int) + r.offset).toNat := by
          rw [Char.ofNat, dif_pos hvalid]
          rfl
        rw [IsAscii, htoNat] at h
        omega
    · exact absurd h hc
  · rintro (h | rfl | rfl)
    · rw [foldCase_of_isAscii h]
      exact isAscii_toLower h
    · decide +kernel
    · decide +kernel

/-- What folds into ASCII is equal to an ASCII character up to case. -/
theorem exists_isAscii_foldCase {c : Char} (h : IsAscii (foldCase c)) :
    ∃ d, IsAscii d ∧ foldCase d = foldCase c := by
  rcases isAscii_foldCase_iff.mp h with hc | rfl | rfl
  · exact ⟨c, hc, rfl⟩
  · exact ⟨'s', by decide, by decide +kernel⟩
  · exact ⟨'k', by decide, by decide +kernel⟩

end Sift.Text

import Mathlib.Algebra.Group.Nat.Defs
import Mathlib.Data.List.Basic
import Mathlib.Data.List.TakeWhile
import Sift.Calendar.Reading

/-!
# Reading the pieces of a timestamp

What the readers of numbers, years, days and fractions make of a piece that was written out with
zeros before short numbers, whatever stands behind it. A reader of digits goes on as far as it may,
so where a piece has no fixed width, what stands behind it must not start with a digit.

Main statement: `Timestamp.date?_text`.
-/

namespace Sift

/-! ## Texts of digits -/

theorem isDigit_of_mem_zeroPadded {width n : Nat} {c : Char}
    (hc : c ∈ (zeroPadded width n).toList) : c.isDigit = true := by
  simp only [zeroPadded, String.toList_ofList, List.mem_append] at hc
  rcases hc with hc | hc
  · rw [List.eq_of_mem_replicate hc]
    decide
  · exact Nat.isDigit_of_mem_toDigits (by decide) (by decide) hc

/-- Zeros in front do not change the number. -/
theorem digitsValue_zeroPadded (width n : Nat) :
    Binary64.digitsValue (zeroPadded width n).toList = n := by
  have hvalue : ∀ cs, Binary64.digitsValue cs = Nat.ofDigitChars 10 cs 0 := fun _ => rfl
  rw [zeroPadded, String.toList_ofList, hvalue, Nat.ofDigitChars_append]
  simp [Nat.ofDigitChars_replicate_zero, Nat.ofDigitChars_ten_toDigits]

theorem zeroPadded_ne_nil (width n : Nat) : (zeroPadded width n).toList ≠ [] := by
  simp [zeroPadded, Nat.toDigits_ne_nil]

theorem le_length_zeroPadded (width n : Nat) : width ≤ (zeroPadded width n).toList.length := by
  simp only [zeroPadded, String.toList_ofList, List.length_append, List.length_replicate]
  omega

/-- A number that fits its width takes exactly that width. -/
theorem length_zeroPadded {width n : Nat} (hwidth : 0 < width) (hn : n < 10 ^ width) :
    (zeroPadded width n).toList.length = width := by
  have hle : (Nat.toDigits 10 n).length ≤ width :=
    (Nat.length_toDigits_le_iff (by decide) hwidth).mpr hn
  simp only [zeroPadded, String.toList_ofList, List.length_append, List.length_replicate]
  omega

/-- Two digits are enough for what is below a hundred. -/
theorem zeroPadded_two {n : Nat} (hn : n < 10 ^ 2) : ∃ a b, (zeroPadded 2 n).toList = [a, b]
    ∧ a.isDigit = true ∧ b.isDigit = true ∧ Binary64.digitsValue [a, b] = n := by
  obtain ⟨a, b, hab⟩ := List.length_eq_two.mp (length_zeroPadded (by decide) hn)
  have hdigit (c : Char) (hc : c ∈ [a, b]) : c.isDigit = true :=
    isDigit_of_mem_zeroPadded (hab ▸ hc)
  have hvalue := digitsValue_zeroPadded 2 n
  rw [hab] at hvalue
  exact ⟨a, b, hab, hdigit a (by simp), hdigit b (by simp), hvalue⟩

/-- What follows does not start with a digit. -/
def EndsDigits (rest : List Char) : Prop := ∀ c ∈ rest.head?, c.isDigit = false

theorem endsDigits_nil : EndsDigits [] := fun _ hc => nomatch hc

theorem endsDigits_cons {c : Char} (hc : c.isDigit = false) (rest : List Char) :
    EndsDigits (c :: rest) := by
  simpa [EndsDigits] using hc

theorem takeWhile_isDigit_of_endsDigits {rest : List Char} (h : EndsDigits rest) (k : Nat) :
    (rest.take k).takeWhile Char.isDigit = [] := by
  cases rest with
  | nil => simp
  | cons c rest =>
    have hc : c.isDigit = false := h c rfl
    cases k <;> simp [hc]

/-- A run of digits within a limit is taken up to its end. -/
theorem takeWhile_take_append {ds rest : List Char} {most : Nat}
    (hds : ∀ c ∈ ds, c.isDigit = true) (hmost : ds.length ≤ most)
    (hrest : ds.length = most ∨ EndsDigits rest) :
    ((ds ++ rest).take most).takeWhile Char.isDigit = ds := by
  rw [List.take_append, List.take_of_length_le hmost, List.takeWhile_append_of_pos hds]
  rcases hrest with hlength | hends
  · simp [hlength]
  · rw [takeWhile_isDigit_of_endsDigits hends, List.append_nil]

theorem isBlank_eq_false_of_isDigit {c : Char} (h : c.isDigit = true) :
    Text.isBlank c = false := by
  simp only [Char.isDigit, Bool.and_eq_true, decide_eq_true_eq] at h
  have hlow : 48 ≤ c.toNat := UInt32.le_iff_toNat_le.mp h.1
  have hhigh : c.toNat ≤ 57 := UInt32.le_iff_toNat_le.mp h.2
  simp [Text.isBlank]
  omega

/-! ## Days and times within their bounds -/

/-- No month has fewer than 28 or more than 31 days. -/
theorem daysInMonth_bounds (year : Int) (month : Nat) :
    28 ≤ daysInMonth year month ∧ daysInMonth year month ≤ 31 := by
  unfold daysInMonth
  split <;> first | omega | (split <;> omega)

namespace Date

/-- Every day is the day of its own fields. -/
theorem of?_self (d : Date) : of? d.year d.month d.day = some d := dif_pos d.exists_

theorem month_lt (d : Date) : d.month < 10 ^ 2 := by have := d.exists_.2.1; omega

theorem day_lt (d : Date) : d.day < 10 ^ 2 := by
  have hday := d.exists_.2.2.2
  have hlength := daysInMonth_bounds d.year d.month
  omega

/-- The text of a day, piece by piece. -/
theorem toList_text_append (d : Date) (rest : List Char) :
    d.text.toList ++ rest = (yearText d.year).toList ++ '-' :: ((zeroPadded 2 d.month).toList
      ++ '-' :: ((zeroPadded 2 d.day).toList ++ rest)) := by
  simp [text, String.toList_append, List.append_assoc]

/-- The text of a day consists of digits and signs. -/
theorem mem_text {day : Date} {c : Char} (hc : c ∈ day.text.toList) :
    c.isDigit = true ∨ c = '-' ∨ c = '+' := by
  have hyear : ∀ c ∈ (Date.yearText day.year).toList, c.isDigit = true ∨ c = '-' ∨ c = '+' := by
    intro c hc
    unfold Date.yearText at hc
    split at hc
    · exact .inl (isDigit_of_mem_zeroPadded hc)
    · rw [String.toList_append, List.mem_append] at hc
      rcases hc with hc | hc
      · split at hc
        · exact .inr (.inl (List.mem_singleton.mp hc))
        · exact .inr (.inr (List.mem_singleton.mp hc))
      · exact .inl (isDigit_of_mem_zeroPadded hc)
  unfold Date.text at hc
  simp only [String.toList_append, List.mem_append] at hc
  rcases hc with (((hc | hc) | hc) | hc) | hc
  · exact hyear c hc
  · exact .inr (.inl (List.mem_singleton.mp hc))
  · exact .inl (isDigit_of_mem_zeroPadded hc)
  · exact .inr (.inl (List.mem_singleton.mp hc))
  · exact .inl (isDigit_of_mem_zeroPadded hc)

end Date

namespace TimeOfDay

theorem of?_self (t : TimeOfDay) : of? t.hour t.minute t.second t.nano = some t :=
  dif_pos t.exists_

theorem hour_lt (t : TimeOfDay) : t.hour < 10 ^ 2 := by have := t.exists_.1; omega

theorem minute_lt (t : TimeOfDay) : t.minute < 10 ^ 2 := by have := t.exists_.2.1; omega

theorem second_lt (t : TimeOfDay) : t.second < 10 ^ 2 := by have := t.exists_.2.2.1; omega

theorem nano_lt (t : TimeOfDay) : t.nano < 10 ^ 9 := t.exists_.2.2.2

end TimeOfDay

/-! ## Reading a piece -/

namespace Timestamp

/-- A reader that begins with a piece goes on with what it read. -/
theorem bind_reads {α β : Type} {x : Option α} {a : α} {f : α → Option β} {y : Option β}
    (hx : x = some a) (hf : f a = y) : (x >>= f) = y := by
  rw [hx]
  exact hf

/-- A run of digits is read whole if it is as long as allowed or nothing behind it continues it. -/
theorem digits?_append {ds rest : List Char} {least most : Nat}
    (hds : ∀ c ∈ ds, c.isDigit = true) (hleast : least ≤ ds.length) (hmost : ds.length ≤ most)
    (hrest : ds.length = most ∨ EndsDigits rest) :
    digits? least most (ds ++ rest) = some (Binary64.digitsValue ds, rest) := by
  unfold digits?
  simp only [takeWhile_take_append hds hmost hrest]
  rw [if_neg (by omega), List.drop_left]

/-- A padded number is read back from its own width, even if digits follow. -/
theorem digits?_zeroPadded {width n : Nat} (hwidth : 0 < width) (hn : n < 10 ^ width)
    (least : Nat) (hleast : least ≤ width) (rest : List Char) :
    digits? least width ((zeroPadded width n).toList ++ rest) = some (n, rest) := by
  have hlength := length_zeroPadded hwidth hn
  rw [digits?_append (fun c hc => isDigit_of_mem_zeroPadded hc) (by omega) hlength.le
    (.inl hlength), digitsValue_zeroPadded]

theorem digits?_of_head {c : Char} (hc : c.isDigit = false) {least most : Nat} (hleast : 0 < least)
    (rest : List Char) : digits? least most (c :: rest) = none := by
  unfold digits?
  rw [takeWhile_isDigit_of_endsDigits (endsDigits_cons hc rest)]
  exact if_pos hleast

/-- Behind a sign, all of the digits are read, however many there are. -/
theorem digits?_signed (n : Nat) {rest : List Char} (hrest : EndsDigits rest) :
    digits? 1 ((zeroPadded 4 n).toList ++ rest).length ((zeroPadded 4 n).toList ++ rest)
      = some (n, rest) := by
  have hlength := le_length_zeroPadded 4 n
  rw [digits?_append (fun c hc => isDigit_of_mem_zeroPadded hc) (by omega) (by simp)
    (.inr hrest), digitsValue_zeroPadded]

theorem pair?_zeroPadded {n : Nat} (hn : n < 10 ^ 2) (rest : List Char) :
    digits? 2 2 ((zeroPadded 2 n).toList ++ rest) = some (n, rest) :=
  digits?_zeroPadded (by decide) hn 2 le_rfl rest

theorem literal?_self (c : Char) (rest : List Char) : literal? c (c :: rest) = some rest :=
  if_pos rfl

theorem trimStart_of_head {c : Char} (hc : Text.isBlank c = false) (rest : List Char) :
    Text.trimStart (c :: rest) = c :: rest := by
  simp [Text.trimStart, hc]

theorem trimStart_zeroPadded (width n : Nat) (rest : List Char) :
    Text.trimStart ((zeroPadded width n).toList ++ rest) = (zeroPadded width n).toList ++ rest := by
  obtain ⟨c, cs, hcs⟩ := List.exists_cons_of_ne_nil (zeroPadded_ne_nil width n)
  have hc : c.isDigit = true := isDigit_of_mem_zeroPadded (hcs ▸ List.mem_cons_self)
  rw [hcs, List.cons_append, trimStart_of_head (isBlank_eq_false_of_isDigit hc)]

/-- A field of two digits is read back, whatever follows. -/
theorem field?_zeroPadded {n : Nat} (hn : n < 10 ^ 2) (rest : List Char) :
    field? ((zeroPadded 2 n).toList ++ rest) = some (n, rest) := by
  unfold field?
  rw [trimStart_zeroPadded, digits?_zeroPadded (by decide) hn 1 (by decide)]

theorem field?_letter (rest : List Char) : field? ('T' :: rest) = none := by
  unfold field?
  rw [trimStart_of_head (by decide), digits?_of_head (by decide) (by decide)]

/-! ### Years and days -/

/-- Without a sign, a year has exactly four digits. -/
theorem year?_zeroPadded {n : Nat} (hn : n < 10 ^ 4) (rest : List Char) :
    year? ((zeroPadded 4 n).toList ++ rest) = some ((n : Int), rest) := by
  obtain ⟨c, cs, hcs⟩ := List.exists_cons_of_ne_nil (zeroPadded_ne_nil 4 n)
  have hc : c.isDigit = true := isDigit_of_mem_zeroPadded (hcs ▸ List.mem_cons_self)
  have hread := digits?_zeroPadded (by decide) hn 1 (by decide) rest
  unfold year?
  rw [trimStart_zeroPadded]
  rw [hcs, List.cons_append] at hread ⊢
  -- The first two cases read a sign.
  split
  · next h => cases h; exact absurd hc (by decide)
  · next h => cases h; exact absurd hc (by decide)
  · rw [hread]; rfl

theorem year?_minus (n : Nat) {rest : List Char} (hrest : EndsDigits rest) :
    year? ('-' :: ((zeroPadded 4 n).toList ++ rest)) = some (-(n : Int), rest) := by
  unfold year?
  rw [trimStart_of_head (by decide)]
  simp only [digits?_signed n hrest, Option.map_some]

/-- With a sign, a year has as many digits as it needs. -/
theorem year?_plus (n : Nat) {rest : List Char} (hrest : EndsDigits rest) :
    year? ('+' :: ((zeroPadded 4 n).toList ++ rest)) = some ((n : Int), rest) := by
  unfold year?
  rw [trimStart_of_head (by decide)]
  simp only [digits?_signed n hrest, Option.map_some]

/-- Whichever way a year is written, it is read back. -/
theorem year?_yearText (year : Int) {rest : List Char} (hrest : EndsDigits rest) :
    year? ((Date.yearText year).toList ++ rest) = some (year, rest) := by
  unfold Date.yearText
  split
  · next hyear =>
    simp only [Bool.and_eq_true, decide_eq_true_eq] at hyear
    rw [year?_zeroPadded (by omega), Int.toNat_of_nonneg hyear.1]
  · next hyear =>
    simp only [Bool.and_eq_true, decide_eq_true_eq] at hyear
    rw [String.toList_append, List.append_assoc]
    split
    · next hneg =>
      have hnat : -(year.natAbs : Int) = year := by omega
      rw [show "-".toList = ['-'] from rfl, List.singleton_append, year?_minus _ hrest, hnat]
    · next hneg =>
      have hnat : (year.natAbs : Int) = year := by omega
      rw [show "+".toList = ['+'] from rfl, List.singleton_append, year?_plus _ hrest, hnat]

theorem digits?_yearText {year : Int} (hyear : 0 ≤ year ∧ year ≤ 9999) (rest : List Char) :
    digits? 4 4 ((Date.yearText year).toList ++ rest) = some (year.toNat, rest) := by
  have h : Date.yearText year = zeroPadded 4 year.toNat := if_pos (by simp [hyear])
  rw [h, digits?_zeroPadded (by decide) (by omega) 4 (by decide)]

/-- A year with a sign is none of the internet format. -/
theorem digits?_yearText_of_signed {year : Int} (hyear : ¬ (0 ≤ year ∧ year ≤ 9999))
    (rest : List Char) : digits? 4 4 ((Date.yearText year).toList ++ rest) = none := by
  have h : Date.yearText year = (if year < 0 then "-" else "+") ++ zeroPadded 4 year.natAbs :=
    if_neg (by simpa using hyear)
  rw [h, String.toList_append, List.append_assoc]
  split
  · exact digits?_of_head (by decide) (by decide) _
  · exact digits?_of_head (by decide) (by decide) _

/-- A day is read back in front of any text: its last field has two digits. -/
theorem date?_text (d : Date) (rest : List Char) :
    date? (d.text.toList ++ rest) = some (d, rest) := by
  have hdash : ∀ cs, EndsDigits ('-' :: cs) := endsDigits_cons (by decide)
  rw [d.toList_text_append]
  exact bind_reads (year?_yearText _ (hdash _)) <| bind_reads (literal?_self ..) <|
    bind_reads (field?_zeroPadded d.month_lt _) <| bind_reads (literal?_self ..) <|
    bind_reads (field?_zeroPadded d.day_lt _) <| bind_reads d.of?_self rfl

/-! ### Fractions -/

/-- The digits of a fraction count from the left. -/
theorem fraction?_append {ds rest : List Char} (hds : ∀ c ∈ ds, c.isDigit = true) (hne : ds ≠ [])
    (hlength : ds.length ≤ 9) (hrest : EndsDigits rest) :
    fraction? ('.' :: (ds ++ rest))
      = some (Binary64.digitsValue ds * 10 ^ (9 - ds.length), rest) := by
  have hrun := takeWhile_take_append hds hlength (.inr hrest)
  have hdrop : rest.dropWhile Char.isDigit = rest := by
    cases rest with
    | nil => rfl
    | cons c rest => simp [hrest c rfl]
  simp [fraction?, hrun, hne, List.dropWhile_append_of_pos hds, hdrop]

theorem fraction?_of_head {rest : List Char} (h : rest.head? ≠ some '.') :
    fraction? rest = some (0, rest) := by
  unfold fraction?
  split
  · exact absurd rfl h
  · rfl

end Timestamp

end Sift

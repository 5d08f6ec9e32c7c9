import Sift.Proofs.Calendar.Pieces

/-!
# Ways to write a timestamp

A `Layout` is a way to write out a timestamp: its day alone, its day and its time to the minute or
to the second, or the internet format. Some timestamps have more to them than a layout has places
for; `Layout.Shows` says that nothing is left out.

The readers of a timestamp are tried one after the other, and what one layout writes, the reader of
another could take for something else. `ofChars?_separated` is the reason that none does: behind a
day, all of the readers come down to three ways to read a time, whichever the separator. What each
of them makes of a time is then said once, with arbitrary text behind every piece it reads.

Main statement: `ofText?_written`.
-/

namespace Sift

/-! ## Layouts -/

inductive Separator
  | space
  | letter
  deriving DecidableEq

def Separator.text : Separator → String
  | space => " "
  | letter => "T"

/-- An offset from universal time, less than a day either way. -/
inductive Offset
  | universal
  | ahead (hours : Fin 24) (minutes : Fin 60)
  | behind (hours : Fin 24) (minutes : Fin 60)
  deriving DecidableEq

def Offset.text : Offset → String
  | universal => "Z"
  | ahead hours minutes => "+" ++ zeroPadded 2 hours ++ ":" ++ zeroPadded 2 minutes
  | behind hours minutes => "-" ++ zeroPadded 2 hours ++ ":" ++ zeroPadded 2 minutes

namespace TimeOfDay

/-- The first places of the fraction with the point before them, or nothing if there are none. -/
def fractionTo (places : Fin 10) (nano : Nat) : String :=
  if places.val = 0 then "" else "." ++ zeroPadded places (nano / 10 ^ (9 - places.val))

def minuteText (t : TimeOfDay) : String := zeroPadded 2 t.hour ++ ":" ++ zeroPadded 2 t.minute

def secondText (places : Fin 10) (t : TimeOfDay) : String :=
  t.minuteText ++ ":" ++ zeroPadded 2 t.second ++ fractionTo places t.nano

theorem toList_minuteText_append (t : TimeOfDay) (rest : List Char) :
    t.minuteText.toList ++ rest
      = (zeroPadded 2 t.hour).toList ++ ':' :: ((zeroPadded 2 t.minute).toList ++ rest) := by
  simp [minuteText, String.toList_append, List.append_assoc]

theorem toList_secondText_append (places : Fin 10) (t : TimeOfDay) (rest : List Char) :
    (t.secondText places).toList ++ rest = t.minuteText.toList ++ ':'
      :: ((zeroPadded 2 t.second).toList ++ ((fractionTo places t.nano).toList ++ rest)) := by
  simp [secondText, String.toList_append, List.append_assoc]

end TimeOfDay

inductive Layout
  | day
  | minutes (separator : Separator)
  | seconds (separator : Separator) (places : Fin 10)
  | internet (separator : Separator) (places : Fin 10) (offset : Offset)
  deriving DecidableEq

namespace Layout

/-- The timestamp written out, with zeros before short numbers. -/
def text : Layout → Timestamp → String
  | day, t => t.date.text
  | minutes separator, t => t.date.text ++ separator.text ++ t.time.minuteText
  | seconds separator places, t => t.date.text ++ separator.text ++ t.time.secondText places
  | internet separator places offset, t =>
    t.date.text ++ separator.text ++ t.time.secondText places ++ offset.text

/-- The layout has a place for everything in the timestamp. Years are signed outside 0 to 9999, and
there are no signs in the internet format. -/
def Shows : Layout → Timestamp → Prop
  | day, t => t.time = .midnight
  | minutes _, t => t.time.second = 0 ∧ t.time.nano = 0
  | seconds _ places, t => 10 ^ (9 - places.val) ∣ t.time.nano
  | internet _ places _, t =>
    10 ^ (9 - places.val) ∣ t.time.nano ∧ 0 ≤ t.date.year ∧ t.date.year ≤ 9999

end Layout

/-! ## Fractions and offsets -/

namespace Timestamp

/-- A fraction whose further digits are zeros is read as it was. -/
theorem fraction?_fractionTo {places : Fin 10} {nano : Nat} (hnano : nano < 10 ^ 9)
    (hplaces : 10 ^ (9 - places.val) ∣ nano) {rest : List Char} (hrest : EndsDigits rest)
    (hpoint : rest.head? ≠ some '.') :
    fraction? ((TimeOfDay.fractionTo places nano).toList ++ rest) = some (nano, rest) := by
  unfold TimeOfDay.fractionTo
  split
  -- Without places there is no point, and the fraction is zero.
  · next hzero =>
    rw [hzero] at hplaces
    rw [Nat.eq_zero_of_dvd_of_lt hplaces hnano]
    exact fraction?_of_head hpoint
  · next hzero =>
    have hpow : 10 ^ (9 - places.val) * 10 ^ places.val = 10 ^ 9 := by
      rw [← Nat.pow_add]
      congr 1
      omega
    -- Only zeros are cut off, so what is shown still has all of the number.
    have hshown : nano / 10 ^ (9 - places.val) < 10 ^ places.val :=
      Nat.div_lt_of_lt_mul (hpow ▸ hnano)
    have hlength := length_zeroPadded (Nat.pos_of_ne_zero hzero) hshown
    have hread := fraction?_append (fun c hc => isDigit_of_mem_zeroPadded hc)
      (zeroPadded_ne_nil _ _) (hlength.le.trans (by omega)) hrest
    rw [hlength, digitsValue_zeroPadded, Nat.div_mul_cancel hplaces] at hread
    rw [String.toList_append, List.append_assoc, show ".".toList = ['.'] from rfl,
      List.singleton_append, hread]

/-- Both ways from universal time, an offset is written as the reader wants it. -/
theorem isOffset_text (offset : Offset) : isOffset offset.text.toList = true := by
  have hsigned {sign : Char} (hsign : sign = '+' ∨ sign = '-') (hours : Fin 24)
      (minutes : Fin 60) : isOffset (sign :: ((zeroPadded 2 hours).toList
        ++ ':' :: (zeroPadded 2 minutes).toList)) = true := by
    obtain ⟨a, b, hab, ha, hb, hhours⟩ := zeroPadded_two (show hours.val < 10 ^ 2 by omega)
    obtain ⟨c, d, hcd, hc, hd, hminutes⟩ := zeroPadded_two (show minutes.val < 10 ^ 2 by omega)
    rw [hab, hcd]
    simp [isOffset, ha, hb, hc, hd, hhours, hminutes, hsign]
    omega
  cases offset with
  | universal => rfl
  | ahead hours minutes =>
    simpa [Offset.text, String.toList_append, List.append_assoc]
      using hsigned (.inl rfl) hours minutes
  | behind hours minutes =>
    simpa [Offset.text, String.toList_append, List.append_assoc]
      using hsigned (.inr rfl) hours minutes

/-- An offset does not go on with the digits of the fraction before it. -/
theorem endsDigits_offset (offset : Offset) : EndsDigits offset.text.toList := by
  cases offset <;> simp [EndsDigits, Offset.text, String.toList_append]

theorem head?_offset_ne (offset : Offset) : offset.text.toList.head? ≠ some '.' := by
  cases offset <;> simp [Offset.text, String.toList_append]

/-! ## The readers behind a day -/

def clock? (withSeconds : Bool) (cs : List Char) : Option TimeOfDay := do
  let (hour, cs) ← field? cs
  let cs ← literal? ':' cs
  let (minute, cs) ← field? cs
  if withSeconds then
    let cs ← literal? ':' cs
    let (second, cs) ← field? cs
    let (nano, cs) ← fraction? cs
    let t ← TimeOfDay.of? hour minute second nano
    if cs.isEmpty then some t else none
  else
    let t ← TimeOfDay.of? hour minute 0 0
    if cs.isEmpty then some t else none

def internetClock? (cs : List Char) : Option TimeOfDay := do
  let (hour, cs) ← digits? 2 2 cs
  let cs ← literal? ':' cs
  let (minute, cs) ← digits? 2 2 cs
  let cs ← literal? ':' cs
  let (second, cs) ← digits? 2 2 cs
  let (nano, cs) ← fraction? cs
  let t ← TimeOfDay.of? hour minute second nano
  if isOffset cs then some t else none

/-- The reader of a day alone wants nothing behind the day. -/
theorem ofDateText?_text (d : Date) (rest : List Char) :
    ofDateText? (d.text.toList ++ rest) = if rest.isEmpty then some ⟨d, .midnight⟩ else none := by
  simp [ofDateText?, date?_text]

/-- Two readers in step, of which the one goes on to make something of what the other ends with. -/
theorem bind_in_step {α β γ : Type} {x : Option α} {f : α → Option γ} {g : α → Option β}
    {h : β → γ} (hfg : ∀ a, f a = (g a).map h) : (x >>= f) = (x.bind g).map h := by
  cases x with
  | none => rfl
  | some a => exact hfg a

theorem end_in_step {α β : Type} {x : Option α} {last : Bool} {h : α → β} :
    (x >>= fun a => if last then some (h a) else none)
      = (x >>= fun a => if last then some a else none).map h := by
  cases x <;> cases last <;> rfl

/-- Behind a day, a reader of fields comes down to how it reads the separator and the time. -/
theorem ofFields?_text (separator? : List Char → Option (List Char)) (withSeconds : Bool)
    (d : Date) (rest : List Char) :
    ofFields? separator? withSeconds (d.text.toList ++ rest)
      = ((separator? rest).bind (clock? withSeconds)).map (⟨d, ·⟩) := by
  unfold ofFields?
  rw [date?_text, Option.bind_eq_bind, Option.bind_some]
  refine bind_in_step fun cs => bind_in_step fun (hour, cs) => bind_in_step fun cs =>
    bind_in_step fun (minute, cs) => ?_
  cases withSeconds with
  | false => exact end_in_step
  | true =>
    exact bind_in_step fun cs => bind_in_step fun (second, cs) => bind_in_step fun (nano, cs) =>
      end_in_step

/-- The internet format is read in the same way, but only for years of four digits. -/
theorem ofInternetText?_text (d : Date) (rest : List Char) :
    ofInternetText? (d.text.toList ++ rest)
      = if 0 ≤ d.year ∧ d.year ≤ 9999 then
          ((internetSeparator? rest).bind internetClock?).map (⟨d, ·⟩)
        else none := by
  rw [d.toList_text_append]
  unfold ofInternetText?
  split
  · next hyear =>
    have hof : Date.of? (d.year.toNat : Int) d.month d.day = some d := by
      rw [Int.toNat_of_nonneg hyear.1, d.of?_self]
    refine bind_reads (digits?_yearText hyear _) <| bind_reads (literal?_self ..) <|
      bind_reads (pair?_zeroPadded d.month_lt _) <| bind_reads (literal?_self ..) <|
      bind_reads (pair?_zeroPadded d.day_lt _) ?_
    -- The day is only put together when the whole text has been read.
    exact bind_in_step fun cs => bind_in_step fun (hour, cs) => bind_in_step fun cs =>
      bind_in_step fun (minute, cs) => bind_in_step fun cs => bind_in_step fun (second, cs) =>
      bind_in_step fun (nano, cs) => bind_reads hof end_in_step
  · next hyear =>
    rw [digits?_yearText_of_signed hyear]
    rfl

theorem clock?_letter (withSeconds : Bool) (rest : List Char) :
    clock? withSeconds ('T' :: rest) = none := by
  simp [clock?, field?_letter]

/-- Behind a day there is at most one reader of fields for each separator, and so the first way to
read a time that reads what stands there is the one that counts. -/
theorem ofChars?_separated (d : Date) (separator : Separator) {cs : List Char}
    (hcs : Text.trimStart cs = cs) :
    ofChars? (d.text.toList ++ (separator.text.toList ++ cs))
      = ((if 0 ≤ d.year ∧ d.year ≤ 9999 then internetClock? cs else none).or
          ((clock? true cs).or (clock? false cs))).map (⟨d, ·⟩) := by
  unfold ofChars?
  simp only [ofDateText?_text, ofInternetText?_text, ofFields?_text]
  cases separator with
  | space =>
    have hblanks : blanks? (' ' :: cs) = some cs := by
      simpa [blanks?, Text.trimStart, show Text.isBlank ' ' = true by decide] using hcs
    simp [Separator.text, hblanks, literal?, internetSeparator?, Option.map_or, apply_ite]
  | letter =>
    -- The reader of blanks lets the letter pass, and no time begins with one.
    have hblanks : blanks? ('T' :: cs) = some ('T' :: cs) :=
      congrArg some (trimStart_of_head (by decide) cs)
    simp [Separator.text, hblanks, clock?_letter, literal?, internetSeparator?, Option.map_or,
      apply_ite]

/-! ### Reading a time -/

section

variable {t : TimeOfDay} {places : Fin 10}

theorem trimStart_minuteText (t : TimeOfDay) (rest : List Char) :
    Text.trimStart (t.minuteText.toList ++ rest) = t.minuteText.toList ++ rest := by
  rw [t.toList_minuteText_append, trimStart_zeroPadded]

theorem trimStart_secondText (places : Fin 10) (t : TimeOfDay) (rest : List Char) :
    Text.trimStart ((t.secondText places).toList ++ rest)
      = (t.secondText places).toList ++ rest := by
  rw [t.toList_secondText_append, trimStart_minuteText]

/-- A time to the minute is read where no seconds are expected. -/
theorem clock?_minuteText (h : t.second = 0 ∧ t.nano = 0) :
    clock? false t.minuteText.toList = some t := by
  have hof := t.of?_self
  rw [h.1, h.2] at hof
  rw [← List.append_nil t.minuteText.toList, t.toList_minuteText_append]
  exact bind_reads (field?_zeroPadded t.hour_lt _) <| bind_reads (literal?_self ..) <|
    bind_reads (field?_zeroPadded t.minute_lt _) <| bind_reads hof rfl

/-- Where seconds are expected, a time to the minute is none. -/
theorem clock?_true_minuteText : clock? true t.minuteText.toList = none := by
  rw [← List.append_nil t.minuteText.toList, t.toList_minuteText_append]
  exact bind_reads (field?_zeroPadded t.hour_lt _) <| bind_reads (literal?_self ..) <|
    bind_reads (field?_zeroPadded t.minute_lt _) rfl

theorem internetClock?_minuteText : internetClock? t.minuteText.toList = none := by
  rw [← List.append_nil t.minuteText.toList, t.toList_minuteText_append]
  exact bind_reads (pair?_zeroPadded t.hour_lt _) <| bind_reads (literal?_self ..) <|
    bind_reads (pair?_zeroPadded t.minute_lt _) rfl

/-- A time with seconds is read with every place of its fraction. -/
theorem clock?_secondText (hplaces : 10 ^ (9 - places.val) ∣ t.nano) :
    clock? true (t.secondText places).toList = some t := by
  rw [← List.append_nil (t.secondText places).toList, t.toList_secondText_append,
    t.toList_minuteText_append]
  exact bind_reads (field?_zeroPadded t.hour_lt _) <| bind_reads (literal?_self ..) <|
    bind_reads (field?_zeroPadded t.minute_lt _) <| bind_reads (literal?_self ..) <|
    bind_reads (field?_zeroPadded t.second_lt _) <|
    bind_reads (fraction?_fractionTo t.nano_lt hplaces endsDigits_nil (by simp)) <|
    bind_reads t.of?_self rfl

/-- In the internet format, a time must have its offset behind it, which leaves the time alone. -/
theorem internetClock?_secondText (hplaces : 10 ^ (9 - places.val) ∣ t.nano) {rest : List Char}
    (hrest : EndsDigits rest) (hpoint : rest.head? ≠ some '.') :
    internetClock? ((t.secondText places).toList ++ rest)
      = if isOffset rest then some t else none := by
  rw [t.toList_secondText_append, t.toList_minuteText_append]
  exact bind_reads (pair?_zeroPadded t.hour_lt _) <| bind_reads (literal?_self ..) <|
    bind_reads (pair?_zeroPadded t.minute_lt _) <| bind_reads (literal?_self ..) <|
    bind_reads (pair?_zeroPadded t.second_lt _) <|
    bind_reads (fraction?_fractionTo t.nano_lt hplaces hrest hpoint) <|
    bind_reads t.of?_self rfl

end

/-- Among all the readers, the first that takes what a layout writes reads the timestamp itself. -/
theorem ofChars?_text {l : Layout} {t : Timestamp} (h : l.Shows t) :
    ofChars? (l.text t).toList = some t := by
  obtain ⟨d, t⟩ := t
  -- The readers before the right one refuse, each for what comes behind the day.
  cases l with
  | day =>
    obtain rfl : t = .midnight := h
    have hday := ofDateText?_text d []
    rw [List.append_nil] at hday
    simp [Layout.text, ofChars?, hday]
  | minutes separator =>
    have hcs := trimStart_minuteText t []
    rw [List.append_nil] at hcs
    simp only [Layout.text, String.toList_append, List.append_assoc]
    rw [ofChars?_separated d separator hcs, internetClock?_minuteText, clock?_true_minuteText,
      clock?_minuteText h]
    simp
  | seconds separator places =>
    have hcs := trimStart_secondText places t []
    have hinternet := internetClock?_secondText h endsDigits_nil (by simp)
    rw [List.append_nil] at hcs hinternet
    simp only [Layout.text, String.toList_append, List.append_assoc]
    rw [ofChars?_separated d separator hcs, hinternet, clock?_secondText h]
    simp [isOffset]
  | internet separator places offset =>
    obtain ⟨hplaces, hyear⟩ := h
    have hcs := trimStart_secondText places t offset.text.toList
    simp only [Layout.text, String.toList_append, List.append_assoc]
    rw [ofChars?_separated d separator hcs, if_pos hyear,
      internetClock?_secondText hplaces (endsDigits_offset offset) (head?_offset_ne offset),
      if_pos (isOffset_text offset)]
    simp

end Timestamp

/-! ## Blanks around a text -/

/-- The text begins and ends with a character that is not blank. -/
def Solid (cs : List Char) : Prop :=
  (∃ c rest, cs = c :: rest ∧ Text.isBlank c = false)
    ∧ ∃ rest c, cs = rest ++ [c] ∧ Text.isBlank c = false

theorem solid_of_forall {cs : List Char} (hne : cs ≠ [])
    (h : ∀ c ∈ cs, Text.isBlank c = false) : Solid cs := by
  refine ⟨⟨cs.head hne, cs.tail, (List.cons_head_tail hne).symm, h _ (List.head_mem hne)⟩, ?_⟩
  exact ⟨cs.dropLast, cs.getLast hne, (List.dropLast_append_getLast hne).symm,
    h _ (List.getLast_mem hne)⟩

theorem solid_singleton {c : Char} (h : Text.isBlank c = false) : Solid [c] :=
  ⟨⟨c, [], rfl, h⟩, [], c, rfl, h⟩

theorem Solid.append {first last : List Char} (hfirst : Solid first) (hlast : Solid last)
    (cs : List Char) : Solid (first ++ cs ++ last) := by
  obtain ⟨⟨a, as, rfl, ha⟩, -⟩ := hfirst
  obtain ⟨-, zs, z, rfl, hz⟩ := hlast
  exact ⟨⟨a, as ++ cs ++ (zs ++ [z]), by simp, ha⟩, a :: as ++ cs ++ zs, z, by simp, hz⟩

/-- Trimming takes off all the blanks around a text without blanks at its ends, and no more. -/
theorem Solid.trim_append {cs before after : List Char} (hcs : Solid cs)
    (hbefore : ∀ c ∈ before, Text.isBlank c = true)
    (hafter : ∀ c ∈ after, Text.isBlank c = true) : Text.trim (before ++ cs ++ after) = cs := by
  obtain ⟨⟨a, as, ha, hfirst⟩, zs, z, hz, hlast⟩ := hcs
  have hstart : Text.trimStart (before ++ cs ++ after) = cs ++ after := by
    rw [List.append_assoc, Text.trimStart, List.dropWhile_append_of_pos hbefore, ha]
    exact Timestamp.trimStart_of_head hfirst _
  have hend : (cs ++ after).reverse.dropWhile Text.isBlank = cs.reverse := by
    rw [List.reverse_append, List.dropWhile_append_of_pos (by simpa using hafter), hz,
      List.reverse_append]
    exact Timestamp.trimStart_of_head hlast _
  rw [Text.trim, hstart, Text.trimEnd, hend, List.reverse_reverse]

theorem solid_zeroPadded (width n : Nat) : Solid (zeroPadded width n).toList :=
  solid_of_forall (zeroPadded_ne_nil width n) fun _ hc =>
    isBlank_eq_false_of_isDigit (isDigit_of_mem_zeroPadded hc)

theorem Date.solid_text (d : Date) : Solid d.text.toList := by
  have hne : d.text.toList ≠ [] := by simp [text]
  refine solid_of_forall hne fun c hc => ?_
  rcases mem_text hc with h | rfl | rfl
  · exact isBlank_eq_false_of_isDigit h
  · decide
  · decide

theorem TimeOfDay.solid_minuteText (t : TimeOfDay) : Solid t.minuteText.toList := by
  have h := (solid_zeroPadded 2 t.hour).append (solid_zeroPadded 2 t.minute) [':']
  simpa [minuteText, String.toList_append] using h

theorem TimeOfDay.solid_secondText (places : Fin 10) (t : TimeOfDay) :
    Solid (t.secondText places).toList := by
  have hsecond : Solid (t.minuteText ++ ":" ++ zeroPadded 2 t.second).toList := by
    simpa [String.toList_append] using t.solid_minuteText.append (solid_zeroPadded 2 t.second) [':']
  unfold secondText fractionTo
  split
  · rwa [String.append_empty]
  · simpa [String.toList_append] using hsecond.append (solid_zeroPadded _ _) ['.']

theorem Offset.solid_text (offset : Offset) : Solid offset.text.toList := by
  have hsigned {sign : Char} (h : Text.isBlank sign = false) (hours minutes : Nat) :
      Solid ([sign] ++ ((zeroPadded 2 hours).toList ++ [':']) ++ (zeroPadded 2 minutes).toList) :=
    (solid_singleton h).append (solid_zeroPadded 2 minutes) _
  cases offset with
  | universal => exact solid_singleton (show Text.isBlank 'Z' = false by decide)
  | ahead hours minutes =>
    have h := hsigned (show Text.isBlank '+' = false by decide) hours minutes
    simpa [text, String.toList_append] using h
  | behind hours minutes =>
    have h := hsigned (show Text.isBlank '-' = false by decide) hours minutes
    simpa [text, String.toList_append] using h

/-- No layout writes blanks at its ends. -/
theorem Layout.solid_text (l : Layout) (t : Timestamp) : Solid (l.text t).toList := by
  cases l with
  | day => exact t.date.solid_text
  | minutes separator =>
    have h := t.date.solid_text.append t.time.solid_minuteText separator.text.toList
    simpa [text, String.toList_append] using h
  | seconds separator places =>
    have h := t.date.solid_text.append (t.time.solid_secondText places) separator.text.toList
    simpa [text, String.toList_append] using h
  | internet separator places offset =>
    have h := t.date.solid_text.append offset.solid_text
      (separator.text ++ t.time.secondText places).toList
    simpa [text, String.toList_append] using h

/-! ## Reading back -/

namespace Timestamp

/-- Blanks around a timestamp make no difference. -/
theorem ofText?_text {l : Layout} {t : Timestamp} (h : l.Shows t) {before after : String}
    (hbefore : Text.allBlank before = true) (hafter : Text.allBlank after = true) :
    ofText? (before ++ l.text t ++ after) = some t := by
  rw [ofText?, String.toList_append, String.toList_append,
    (l.solid_text t).trim_append (List.all_eq_true.mp hbefore) (List.all_eq_true.mp hafter),
    ofChars?_text h]

theorem ofText?_dateText (d : Date) : ofText? d.text = some ⟨d, .midnight⟩ := by
  have hshows : Layout.day.Shows ⟨d, .midnight⟩ := rfl
  have hread := ofText?_text hshows (show Text.allBlank "" = true from rfl)
    (show Text.allBlank "" = true from rfl)
  rwa [String.empty_append, String.append_empty] at hread

/-- **A timestamp that was written out reads back as it was.** Whatever the layout, if it leaves
nothing of the timestamp out, and whatever the blanks around the text, the reader returns the day,
the time and the fraction, without the offset. The text of any day of the calendar, with the sign
and all the digits of its year, reads back as that day. -/
theorem ofText?_written :
    (∀ {t : Timestamp} {l : Layout}, l.Shows t → ∀ before after : String,
        Text.allBlank before = true → Text.allBlank after = true →
          ofText? (before ++ l.text t ++ after) = some t
            ∧ Date.ofText? (before ++ l.text t ++ after) = some t.date)
      ∧ ∀ d : Date, Date.ofText? d.text = some d := by
  constructor
  · intro t l h before after hbefore hafter
    have hread := ofText?_text h hbefore hafter
    exact ⟨hread, by rw [Date.ofText?, hread]; rfl⟩
  · intro d
    rw [Date.ofText?, ofText?_dateText]
    rfl

end Timestamp

/-! ### A leap second -/

namespace Sample

/-- Half a second into the leap second at the end of 2016. -/
def leapSecond : Timestamp :=
  ⟨⟨2016, 12, 31, by decide⟩, ⟨23, 59, 60, 500000000, by decide⟩⟩

/-- The offset does not move it to another day. -/
theorem leap_second_read_back :
    (Layout.internet .letter 1 (.behind 5 30)).Shows leapSecond
      ∧ Text.allBlank "\t " = true ∧ Text.allBlank "\n" = true
      ∧ Timestamp.ofText? "\t 2016-12-31T23:59:60.5-05:30\n" = some leapSecond
      ∧ Date.ofText? "\t 2016-12-31T23:59:60.5-05:30\n" = some leapSecond.date := by
  have hshows : (Layout.internet .letter 1 (.behind 5 30)).Shows leapSecond := by
    simp only [Layout.Shows]
    decide
  have htext : "\t " ++ (Layout.internet .letter 1 (.behind 5 30)).text leapSecond ++ "\n"
      = "\t 2016-12-31T23:59:60.5-05:30\n" := by decide +kernel
  refine ⟨hshows, by decide, by decide, ?_⟩
  rw [← htext]
  exact Timestamp.ofText?_written.1 hshows "\t " "\n" (by decide) (by decide)

end Sample

end Sift

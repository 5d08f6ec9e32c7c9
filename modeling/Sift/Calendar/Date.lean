/-!
# Calendar days

Days of the proleptic Gregorian calendar, from the first day of year -262143 to the last of year
262142. A `Date` carries the proof that its month and its day exist.

The text of a day is `YYYY-MM-DD`; a year outside 0 to 9999 has an explicit sign.

Main statements: `Date.of?_eq_some_iff` and `Date.compare_eq_iff`.
-/

namespace Sift

def isLeapYear (year : Int) : Bool := year % 4 == 0 && (year % 100 != 0 || year % 400 == 0)

def daysInMonth (year : Int) : Nat → Nat
  | 2 => if isLeapYear year then 29 else 28
  | 4 | 6 | 9 | 11 => 30
  | _ => 31

/-- The day is one of the supported calendar. -/
def IsDate (year : Int) (month day : Nat) : Prop :=
  (-262143 ≤ year ∧ year ≤ 262142) ∧ (1 ≤ month ∧ month ≤ 12) ∧ 1 ≤ day
    ∧ day ≤ daysInMonth year month

instance (year : Int) (month day : Nat) : Decidable (IsDate year month day) := by
  unfold IsDate; infer_instance

structure Date where
  year : Int
  month : Nat
  day : Nat
  exists_ : IsDate year month day
  deriving DecidableEq

def zeroPadded (width n : Nat) : String :=
  let digits := Nat.toDigits 10 n
  String.ofList (List.replicate (width - digits.length) '0' ++ digits)

namespace Date

/-- The day with this year, month and day of the month, if there is one. -/
def of? (year : Int) (month day : Nat) : Option Date :=
  if h : IsDate year month day then some ⟨year, month, day, h⟩ else none

/-- The day that the reader gives has the fields it was asked for. -/
theorem of?_eq_some_iff {year : Int} {month day : Nat} {d : Date} :
    of? year month day = some d ↔ d.year = year ∧ d.month = month ∧ d.day = day := by
  obtain ⟨y, m, k, h⟩ := d
  unfold of?
  constructor
  · split <;> simp_all
  · rintro ⟨rfl, rfl, rfl⟩
    simp [h]

def compare (a b : Date) : Ordering :=
  (Ord.compare a.year b.year).then ((Ord.compare a.month b.month).then (Ord.compare a.day b.day))

instance : Ord Date := ⟨compare⟩

/-- Days that are neither before nor after each other are the same day. -/
theorem compare_eq_iff {a b : Date} : compare a b = .eq ↔ a = b := by
  obtain ⟨_, _, _, _⟩ := a
  obtain ⟨_, _, _, _⟩ := b
  simp [compare, Ordering.then_eq_eq]

/-- The text of a year: four digits, with a sign and perhaps more outside 0 to 9999. -/
def yearText (year : Int) : String :=
  if 0 ≤ year && year ≤ 9999 then zeroPadded 4 year.toNat
  else (if year < 0 then "-" else "+") ++ zeroPadded 4 year.natAbs

/-- The text `YYYY-MM-DD`. -/
def text (d : Date) : String :=
  yearText d.year ++ "-" ++ zeroPadded 2 d.month ++ "-" ++ zeroPadded 2 d.day

end Date

end Sift

import Sift.Calendar.Date

/-!
# Wall-clock timestamps

A time of day goes down to the nanosecond. Any minute may have a second 60, a leap second, which
lies between its second 59 and the next minute. A timestamp is a day and a time of that day; no
time zone belongs to it.

Main statement: `Timestamp.compare_eq_iff`.
-/

namespace Sift

def IsTime (hour minute second nano : Nat) : Prop :=
  hour ≤ 23 ∧ minute ≤ 59 ∧ second ≤ 60 ∧ nano < 1000000000

instance (hour minute second nano : Nat) : Decidable (IsTime hour minute second nano) := by
  unfold IsTime; infer_instance

structure TimeOfDay where
  hour : Nat
  minute : Nat
  second : Nat
  nano : Nat
  exists_ : IsTime hour minute second nano
  deriving DecidableEq

namespace TimeOfDay

def of? (hour minute second nano : Nat) : Option TimeOfDay :=
  if h : IsTime hour minute second nano then some ⟨hour, minute, second, nano, h⟩ else none

def midnight : TimeOfDay := ⟨0, 0, 0, 0, by decide⟩

def compare (a b : TimeOfDay) : Ordering :=
  (Ord.compare a.hour b.hour).then <| (Ord.compare a.minute b.minute).then <|
    (Ord.compare a.second b.second).then (Ord.compare a.nano b.nano)

/-- The digits after the point of the second: none, three, six or nine of them, as few as show the
fraction exactly. -/
def fractionText (nano : Nat) : String :=
  if nano = 0 then ""
  else if nano % 1000000 = 0 then "." ++ zeroPadded 3 (nano / 1000000)
  else if nano % 1000 = 0 then "." ++ zeroPadded 6 (nano / 1000)
  else "." ++ zeroPadded 9 nano

/-- The text `HH:MM:SS`, with a fraction if it is not zero. -/
def text (t : TimeOfDay) : String :=
  zeroPadded 2 t.hour ++ ":" ++ zeroPadded 2 t.minute ++ ":" ++ zeroPadded 2 t.second
    ++ fractionText t.nano

theorem compare_eq_iff {a b : TimeOfDay} : compare a b = .eq ↔ a = b := by
  obtain ⟨_, _, _, _, _⟩ := a
  obtain ⟨_, _, _, _, _⟩ := b
  simp [compare, Ordering.then_eq_eq]

end TimeOfDay

structure Timestamp where
  date : Date
  time : TimeOfDay
  deriving DecidableEq

namespace Timestamp

def compare (a b : Timestamp) : Ordering := (a.date.compare b.date).then (a.time.compare b.time)

instance : Ord Timestamp := ⟨compare⟩

/-- Two timestamps that compare as equal agree in the day and in the time of day. -/
theorem compare_eq_iff {a b : Timestamp} : compare a b = .eq ↔ a = b := by
  obtain ⟨_, _⟩ := a
  obtain ⟨_, _⟩ := b
  simp [compare, Ordering.then_eq_eq, Date.compare_eq_iff, TimeOfDay.compare_eq_iff]

/-- The text of a timestamp, its day and its time joined by a `T`. -/
def text (t : Timestamp) : String := t.date.text ++ "T" ++ t.time.text

end Timestamp

end Sift

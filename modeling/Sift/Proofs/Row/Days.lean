import Sift.Proofs.Calendar.Layout
import Sift.Proofs.Row.Chronology

/-!
# Days and points in time

A column that writes a timestamp can be asked for its calendar day, and it can be compared with a
timestamp. A day alone is read as its midnight, so that comparing with it decides on which side of
the beginning of that day the timestamp lies. `Entity.DatesAgree` says how each question about the
day is answered by comparisons with the day and with the day after it.

Main statement: `dates_agree_with_comparisons`.
-/

namespace Sift

/-! ## The day after -/

namespace Date

/-- The next day in the month, else the first of the next month, else the first of the next year. -/
def next? (d : Date) : Option Date :=
  (of? d.year d.month (d.day + 1)).or <| (of? d.year (d.month + 1) 1).or (of? (d.year + 1) 1 1)

theorem of?_eq_none_iff {year : Int} {month day : Nat} :
    of? year month day = none ↔ ¬ IsDate year month day := by
  unfold of?
  split <;> simp_all

/-- One day is before another by its year, its month or its day of the month. -/
theorem compare_eq_lt_iff {a b : Date} : a.compare b = .lt ↔ a.year < b.year ∨ a.year = b.year
    ∧ (a.month < b.month ∨ a.month = b.month ∧ a.day < b.day) := by
  simp [compare, Ordering.then_eq_lt, Int.compare_eq_lt, Nat.compare_eq_lt]

theorem compare_eq_gt_iff {a b : Date} : a.compare b = .gt ↔ b.year < a.year ∨ a.year = b.year
    ∧ (b.month < a.month ∨ a.month = b.month ∧ b.day < a.day) := by
  simp [compare, Ordering.then_eq_gt, Int.compare_eq_gt, Nat.compare_eq_gt]

inductive Precedes (d d' : Date) : Prop
  | sameMonth (hyear : d'.year = d.year) (hmonth : d'.month = d.month) (hday : d'.day = d.day + 1)
  | nextMonth (hlast : d.day = daysInMonth d.year d.month) (hyear : d'.year = d.year)
      (hmonth : d'.month = d.month + 1) (hday : d'.day = 1)
  | nextYear (hlast : d.day = daysInMonth d.year d.month) (hdecember : d.month = 12)
      (hyear : d'.year = d.year + 1) (hmonth : d'.month = 1) (hday : d'.day = 1)

/-- The next day comes right after the day, with none in between. -/
theorem precedes_of_next? {d d' : Date} (h : d.next? = some d') : d.Precedes d' := by
  obtain ⟨hyears, ⟨hone, hmonth⟩, hfirst, hday⟩ := d.exists_
  have hlength := daysInMonth_bounds d.year (d.month + 1)
  have hlast (hno : of? d.year d.month (d.day + 1) = none) :
      d.day = daysInMonth d.year d.month := by
    by_contra hne
    exact of?_eq_none_iff.mp hno ⟨hyears, ⟨hone, hmonth⟩, by omega, by omega⟩
  -- The three ways to find the next day are tried in turn, and each says why those before it
  -- failed.
  unfold next? at h
  rcases Option.or_eq_some_iff.mp h with h | ⟨hno, h⟩
  · obtain ⟨hy, hm, hd⟩ := of?_eq_some_iff.mp h
    exact .sameMonth hy hm hd
  rcases Option.or_eq_some_iff.mp h with h | ⟨hno', h⟩
  · obtain ⟨hy, hm, hd⟩ := of?_eq_some_iff.mp h
    exact .nextMonth (hlast hno) hy hm hd
  · have hdecember : d.month = 12 := by
      by_contra hne
      exact of?_eq_none_iff.mp hno' ⟨hyears, ⟨by omega, by omega⟩, le_rfl, by omega⟩
    obtain ⟨hy, hm, hd⟩ := of?_eq_some_iff.mp h
    exact .nextYear (hlast hno) hdecember hy hm hd

/-- Nothing lies between a day and the day after. -/
theorem Precedes.compare_eq_lt_iff {a d d' : Date} (h : d.Precedes d') :
    a.compare d' = .lt ↔ a.compare d ≠ .gt := by
  obtain ⟨-, ⟨hone, hmonth⟩, hfirst, hday⟩ := a.exists_
  -- In the month that ends with `d`, no day comes after it.
  have hin (hlast : d.day = daysInMonth d.year d.month) (hy : a.year = d.year)
      (hm : a.month = d.month) : a.day ≤ d.day := by
    rwa [hlast, ← hy, ← hm]
  rw [ne_eq, Date.compare_eq_lt_iff, compare_eq_gt_iff]
  cases h with
  | sameMonth hyear hmonth' hday' => omega
  | nextMonth hlast hyear hmonth' hday' =>
    have hin := hin hlast
    omega
  | nextYear hlast hdecember hyear hmonth' hday' =>
    have hin := hin hlast
    omega

end Date

/-! ## Midnight -/

namespace Timestamp

/-- A time lies before the midnight of a day if its own day does. -/
theorem compare_midnight_eq_lt_iff {t : Timestamp} {d : Date} :
    t.compare ⟨d, .midnight⟩ = .lt ↔ t.date.compare d = .lt := by
  have hnot : t.time.compare .midnight ≠ .lt := by
    simp [TimeOfDay.compare, TimeOfDay.midnight, Ordering.then_eq_lt, Nat.compare_eq_lt]
  simp [compare, Ordering.then_eq_lt, hnot]

end Timestamp

/-! ## Entries behind a document -/

namespace Document

/-- The document with one more comparison of the day that a column writes. -/
def andDay (d : Document) (field : String) (op : Operator) (operand : String) : Document :=
  d ++ dating ⟨field, some op.text, .string operand⟩

/-- The document with one more comparison of a column with a text. -/
def andText (d : Document) (field : String) (op : Operator) (operand : String) : Document :=
  d ++ comparing ⟨field, some op.text, .string operand⟩

end Document

section

variable {e : Entity} {d : Document} {row : Json} {field text day next : String} {t u : Timestamp}
  {D D' : Date}

/-- The column of the row does not write a timestamp: it is missing, or it holds something other
than a text, or a text that does not read as one. -/
def HasNoReading (row : Json) (field : String) : Prop :=
  ∀ text t, row.field? field = some (.string text) → Timestamp.ofText? text ≠ some t

theorem dayOf?_eq_none_of_hasNoReading (h : HasNoReading row field) : dayOf? row field = none := by
  unfold dayOf?
  split
  · next text hrow =>
    have hnone : Timestamp.ofText? text = none :=
      Option.eq_none_iff_forall_ne_some.mpr fun t => h text t hrow
    rw [Date.ofText?, hnone]
    rfl
  · rfl

/-- The day of a column is that of the timestamp that it writes. -/
theorem dayOf?_of_reading (hrow : row.field? field = some (.string text))
    (ht : Timestamp.ofText? text = some t) : dayOf? row field = some t.date := by
  simp [dayOf?, hrow, Date.ofText?, ht]

namespace Entity

/-- The entry on days compares the days of both timestamps. -/
theorem selects_andDay_iff (hfield : field ∈ e.queryable)
    (hrow : row.field? field = some (.string text)) (ht : Timestamp.ofText? text = some t)
    (hday : Timestamp.ofText? day = some u) (op : Operator) (hop : op ≠ .like) :
    e.Selects (d.andDay field op day) row
      ↔ e.Selects d row ∧ op.accepts (t.date.compare u.date) = true := by
  have hasks := asks_text op hop field (.string day)
  have hdate : Date.ofText? day = some u.date := by rw [Date.ofText?, hday]; rfl
  unfold Document.andDay
  rw [selects_append_dating_iff (hasks.valid_date hfield hdate),
    hasks.holdsOfDay_iff (dayOf?_of_reading hrow ht) hdate]

/-- The entry on the column itself compares the timestamps. -/
theorem selects_andText_iff (hfield : field ∈ e.queryable)
    (hrow : row.field? field = some (.string text)) (ht : Timestamp.ofText? text = some t)
    (hday : Timestamp.ofText? day = some u) (op : Operator) (hop : op ≠ .like) :
    e.Selects (d.andText field op day) row
      ↔ e.Selects d row ∧ op.accepts (t.compare u) = true := by
  have hasks := asks_text op hop field (.string day)
  have hoperand := isOperand_string day
  unfold Document.andText
  rw [selects_append_comparing_iff (hasks.valid hfield hoperand), hasks.holds_iff hoperand,
    compares_iff hrow]
  simp [compareScalar, compareReading_of_timestamps ht hday]

/-- Without a day to ask for, any question about the day fails, also whether it is like a text. -/
theorem not_selects_of_hasNoReading (h : HasNoReading row field) {c : Condition}
    (hc : c ∈ d.dates) (hfield : c.field = field) : ¬ e.Selects d row := by
  intro hselects
  obtain ⟨day, hday, -⟩ := (selects_iff.mp hselects).2.dates c hc
  rw [hfield, dayOf?_eq_none_of_hasNoReading h] at hday
  cases hday

/-- Behind a document, each comparison of the day of a column comes to comparisons of the column
with the beginning of that day and with the beginning of the next. -/
structure DatesAgree (e : Entity) (d : Document) (field day next : String) (row : Json) :
    Prop where
  greaterOrEqual : e.Selects (d.andDay field .greaterOrEqual day) row
    ↔ e.Selects (d.andText field .greaterOrEqual day) row
  less : e.Selects (d.andDay field .less day) row ↔ e.Selects (d.andText field .less day) row
  lessOrEqual : e.Selects (d.andDay field .lessOrEqual day) row
    ↔ e.Selects (d.andText field .less next) row
  greater : e.Selects (d.andDay field .greater day) row
    ↔ e.Selects (d.andText field .greaterOrEqual next) row
  equal : e.Selects (d.andDay field .equal day) row
    ↔ e.Selects ((d.andText field .greaterOrEqual day).andText field .less next) row
  notEqual : e.Selects (d.andDay field .notEqual day) row
    ↔ e.Selects d row ∧ ¬ e.Selects (d.andDay field .equal day) row

/-- The day is at least another if the time is not before the midnight of that day, and at most
another if the time is before the midnight that ends it. -/
theorem datesAgree_of_precedes (hfield : field ∈ e.queryable)
    (hrow : row.field? field = some (.string text)) (ht : Timestamp.ofText? text = some t)
    (hnext : D.Precedes D') (hday : Timestamp.ofText? day = some ⟨D, .midnight⟩)
    (hnextDay : Timestamp.ofText? next = some ⟨D', .midnight⟩) :
    e.DatesAgree d field day next row := by
  have hbegin : t.compare ⟨D, .midnight⟩ = .lt ↔ t.date.compare D = .lt :=
    Timestamp.compare_midnight_eq_lt_iff
  have hend : t.compare ⟨D', .midnight⟩ = .lt ↔ t.date.compare D ≠ .gt :=
    Timestamp.compare_midnight_eq_lt_iff.trans hnext.compare_eq_lt_iff
  have hon (op : Operator) (hop : op ≠ .like) :=
    selects_andDay_iff (d := d) hfield hrow ht hday op hop
  have hat (op : Operator) (hop : op ≠ .like) :=
    selects_andText_iff (d := d) hfield hrow ht hday op hop
  have hatNext (d : Document) (op : Operator) (hop : op ≠ .like) :=
    selects_andText_iff (d := d) hfield hrow ht hnextDay op hop
  -- Each operator asks for the beginning of the day, its end, or both.
  constructor
  · rw [hon .greaterOrEqual (by decide), hat .greaterOrEqual (by decide)]
    simp [Operator.accepts, hbegin]
  · rw [hon .less (by decide), hat .less (by decide)]
    simp [Operator.accepts, hbegin]
  · rw [hon .lessOrEqual (by decide), hatNext d .less (by decide)]
    simp [Operator.accepts, hend]
  · rw [hon .greater (by decide), hatNext d .greaterOrEqual (by decide)]
    simp [Operator.accepts, hend]
  · rw [hon .equal (by decide), hatNext _ .less (by decide), hat .greaterOrEqual (by decide),
      and_assoc]
    cases hcompare : t.date.compare D <;> simp [Operator.accepts, hend, hbegin, hcompare]
  · rw [hon .notEqual (by decide), hon .equal (by decide)]
    cases t.date.compare D <;> simp [Operator.accepts]

end Entity

end

/-- **Comparing days agrees with comparing points in time.** For a column that writes a timestamp in
any way, and for a day that is not the last of the calendar, what a document asks of the column's
day comes to comparisons of the column with that day and the next, which are read as midnights. Not
to come after the day is to come before the next midnight; to be the day is to lie between the two;
to be another is the opposite. A column that writes no timestamp fails every question about its day,
whatever the operator. -/
theorem dates_agree_with_comparisons {e : Entity} {field : String} (hfield : field ∈ e.queryable) :
    (∀ (d : Document) {row : Json} {text day next : String} {t : Timestamp} {D D' : Date},
        row.field? field = some (.string text) → Timestamp.ofText? text = some t →
        D.next? = some D' → Timestamp.ofText? day = some ⟨D, .midnight⟩ →
        Timestamp.ofText? next = some ⟨D', .midnight⟩ → e.DatesAgree d field day next row)
      ∧ (∀ D : Date, Timestamp.ofText? D.text = some ⟨D, .midnight⟩)
      ∧ ∀ (d : Document) (row : Json), HasNoReading row field →
        (∃ c ∈ d.dates, c.field = field) → ¬ e.Selects d row := by
  refine ⟨?_, Timestamp.ofText?_dateText, ?_⟩
  · intro d row text day next t D D' hrow ht hnext hday hnextDay
    exact Entity.datesAgree_of_precedes hfield hrow ht (Date.precedes_of_next? hnext) hday hnextDay
  · rintro d row hno ⟨c, hc, hcfield⟩
    exact Entity.not_selects_of_hasNoReading hno hc hcfield

/-! ### An arrival in a leap second -/

namespace Sample

/-- Half a second after it began, the leap second is still on the last day of the year; and an
arrival that is still to come is on no day. -/
theorem leap_second_on_its_day :
    "joined" ∈ guests.queryable
      ∧ Timestamp.ofText? "2016-12-31 23:59:60.5" = some leapSecond
      ∧ leapSecond.date.next? = some ⟨2017, 1, 1, by decide⟩
      ∧ guests.DatesAgree .empty "joined" "2016-12-31" "2017-01-01"
        (arrival "2016-12-31 23:59:60.5")
      ∧ guests.Selects (Document.empty.andDay "joined" .lessOrEqual "2016-12-31")
        (arrival "2016-12-31 23:59:60.5")
      ∧ ¬ guests.Selects (.andDay .empty "joined" .like "%") (arrival "soon") := by
  have hjoined : "joined" ∈ guests.queryable := by decide +kernel
  have hread : Timestamp.ofText? "2016-12-31 23:59:60.5" = some leapSecond := by decide +kernel
  have hnext : leapSecond.date.next? = some ⟨2017, 1, 1, by decide⟩ := by decide +kernel
  have hsoon : HasNoReading (arrival "soon") "joined" := by
    intro text t htext
    obtain rfl : "soon" = text := Json.string.inj (Option.some.inj htext)
    rw [show Timestamp.ofText? "soon" = none by decide +kernel]
    exact nofun
  obtain ⟨hagree, -, hfails⟩ := dates_agree_with_comparisons hjoined
  have hsample := hagree .empty (arrival_holds "2016-12-31 23:59:60.5").value hread hnext
    (by decide +kernel : Timestamp.ofText? "2016-12-31" = _)
    (by decide +kernel : Timestamp.ofText? "2017-01-01" = _)
  refine ⟨hjoined, hread, hnext, hsample, hsample.lessOrEqual.mpr ?_, ?_⟩
  · exact ⟨_, rfl, by decide +kernel⟩
  · exact hfails _ _ hsoon ⟨_, .head _, rfl⟩

end Sample

end Sift

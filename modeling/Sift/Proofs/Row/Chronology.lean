import Sift.Proofs.Compile.Single
import Sift.Proofs.Row.Preorder

/-!
# Timestamps among other texts

Two texts that both write timestamps compare as points in time, any other two by their characters.
Each of the two orders is transitive, but their mixture is not: where exactly two of three texts
write timestamps, one of the comparisons is in time and the other two are by characters. `Cycle`
lists the ways in which a text may be at most the next, that one at most a third, and the third
less than the first.

So a wider range may lose a row of a narrower one, namely if its text and the bounds on one side
make up a cycle.

Main statement: `widening_keeps_iff`.
-/

namespace Sift

open Std

/-! ## Points in time -/

instance : TransCmp Date.compare :=
  inferInstanceAs (TransCmp (compareLex (compareOn Date.year)
    (compareLex (compareOn Date.month) (compareOn Date.day))))

instance : TransOrd Date := inferInstanceAs (TransCmp Date.compare)

instance : TransCmp Timestamp.compare :=
  inferInstanceAs (TransCmp (compareLex (compareOn Timestamp.date)
    (compareLex (compareOn (·.time.hour)) (compareLex (compareOn (·.time.minute))
      (compareLex (compareOn (·.time.second)) (compareOn (·.time.nano)))))))

instance : TransCmp compareText := inferInstanceAs (TransCmp (compare : String → String → Ordering))

/-! ## Texts -/

variable {x y z : String} {s t : Timestamp}

/-- The text writes no timestamp. -/
def IsPlain (x : String) : Prop := Timestamp.ofText? x = none

/-- Two timestamps compare as points in time. -/
theorem compareReading_of_timestamps (hx : Timestamp.ofText? x = some s)
    (hy : Timestamp.ofText? y = some t) : compareReading x y = s.compare t := by
  unfold compareReading
  rw [hx, hy]

/-- If one text is no timestamp, both compare as texts. -/
theorem compareReading_of_plain (h : IsPlain x ∨ IsPlain y) :
    compareReading x y = compareText x y := by
  unfold compareReading
  split
  · next hx hy =>
    rcases h with h | h
    · cases hx.symm.trans h
    · cases hy.symm.trans h
  · rfl

/-- The two comparisons differ between timestamps only. -/
theorem exists_timestamps_of_ne (h : compareReading x y ≠ compareText x y) :
    ∃ s t, Timestamp.ofText? x = some s ∧ Timestamp.ofText? y = some t := by
  cases hx : Timestamp.ofText? x with
  | none => exact absurd (compareReading_of_plain (.inl hx)) h
  | some s =>
    cases hy : Timestamp.ofText? y with
    | none => exact absurd (compareReading_of_plain (.inr hy)) h
    | some t => exact ⟨s, t, rfl, rfl⟩

instance : OrientedCmp compareReading where
  eq_swap {x y} := by
    cases hx : Timestamp.ofText? x with
    | none =>
      rw [compareReading_of_plain (.inl hx), compareReading_of_plain (.inr hx)]
      exact OrientedCmp.eq_swap
    | some s =>
      cases hy : Timestamp.ofText? y with
      | none =>
        rw [compareReading_of_plain (.inl hy), compareReading_of_plain (.inr hy)]
        exact OrientedCmp.eq_swap
      | some t =>
        rw [compareReading_of_timestamps hx hy, compareReading_of_timestamps hy hx]
        exact OrientedCmp.eq_swap

/-- For a filter, the one text is at most the other. -/
def AtMost (x y : String) : Prop := compareReading x y ≠ .gt

instance : Decidable (AtMost x y) := inferInstanceAs (Decidable (_ ≠ _))

theorem not_atMost_iff : ¬ AtMost x z ↔ compareReading z x = .lt := by
  unfold AtMost
  rw [Decidable.not_not, OrientedCmp.gt_iff_lt]

/-! ## Cycles -/

/-- The texts go up from `x` over `y` to `z`, and yet `z` is less than `x`. One of them is plain,
and it is compared with the other two by characters. -/
inductive Cycle : String → String → String → Prop
  | first {x y z : String} {s t : Timestamp} (hx : IsPlain x)
      (hy : Timestamp.ofText? y = some s) (hz : Timestamp.ofText? z = some t)
      (hxy : compareText x y ≠ .gt) (hyz : s.compare t ≠ .gt) (hzx : compareText z x = .lt) :
      Cycle x y z
  | middle {x y z : String} {s t : Timestamp} (hx : Timestamp.ofText? x = some s)
      (hy : IsPlain y) (hz : Timestamp.ofText? z = some t)
      (hxy : compareText x y ≠ .gt) (hyz : compareText y z ≠ .gt) (hzx : t.compare s = .lt) :
      Cycle x y z
  | last {x y z : String} {s t : Timestamp} (hx : Timestamp.ofText? x = some s)
      (hy : Timestamp.ofText? y = some t) (hz : IsPlain z)
      (hxy : s.compare t ≠ .gt) (hyz : compareText y z ≠ .gt) (hzx : compareText z x = .lt) :
      Cycle x y z

def timestampCount (x y z : String) : Nat :=
  ([x, y, z].filter fun text => (Timestamp.ofText? text).isSome).length

/-- Three texts in a cycle are two timestamps and a plain text. -/
theorem Cycle.timestampCount_eq (h : Cycle x y z) : timestampCount x y z = 2 := by
  unfold timestampCount
  cases h with
  | first hx hy hz => simp_all [IsPlain]
  | middle hx hy hz => simp_all [IsPlain]
  | last hx hy hz => simp_all [IsPlain]

/-- Cycles are all that is in the way of transitivity. -/
theorem cycle_iff : Cycle x y z ↔ AtMost x y ∧ AtMost y z ∧ ¬ AtMost x z := by
  rw [not_atMost_iff]
  unfold AtMost
  constructor
  · rintro (⟨hx, hy, hz, hxy, hyz, hzx⟩ | ⟨hx, hy, hz, hxy, hyz, hzx⟩ |
      ⟨hx, hy, hz, hxy, hyz, hzx⟩)
    · rw [compareReading_of_plain (.inl hx), compareReading_of_timestamps hy hz,
        compareReading_of_plain (.inr hx)]
      exact ⟨hxy, hyz, hzx⟩
    · rw [compareReading_of_plain (.inr hy), compareReading_of_plain (.inl hy),
        compareReading_of_timestamps hz hx]
      exact ⟨hxy, hyz, hzx⟩
    · rw [compareReading_of_timestamps hx hy, compareReading_of_plain (.inr hz),
        compareReading_of_plain (.inl hz)]
      exact ⟨hxy, hyz, hzx⟩
  · rintro ⟨hxy, hyz, hzx⟩
    -- Comparisons in one and the same order do not go round.
    have htext (hxy' : IsPlain x ∨ IsPlain y) (hyz' : IsPlain y ∨ IsPlain z)
        (hzx' : IsPlain z ∨ IsPlain x) : False := by
      rw [compareReading_of_plain hxy'] at hxy
      rw [compareReading_of_plain hyz'] at hyz
      rw [compareReading_of_plain hzx'] at hzx
      exact TransCmp.le_trans hxy hyz (OrientedCmp.gt_of_lt hzx)
    cases hx : Timestamp.ofText? x with
    | none =>
      cases hy : Timestamp.ofText? y with
      | none => exact (htext (.inl hx) (.inl hy) (.inr hx)).elim
      | some s =>
        cases hz : Timestamp.ofText? z with
        | none => exact (htext (.inl hx) (.inr hz) (.inl hz)).elim
        | some t =>
          rw [compareReading_of_plain (.inl hx)] at hxy
          rw [compareReading_of_timestamps hy hz] at hyz
          rw [compareReading_of_plain (.inr hx)] at hzx
          exact .first hx hy hz hxy hyz hzx
    | some s =>
      cases hy : Timestamp.ofText? y with
      | none =>
        cases hz : Timestamp.ofText? z with
        | none => exact (htext (.inr hy) (.inl hy) (.inl hz)).elim
        | some t =>
          rw [compareReading_of_plain (.inr hy)] at hxy
          rw [compareReading_of_plain (.inl hy)] at hyz
          rw [compareReading_of_timestamps hz hx] at hzx
          exact .middle hx hy hz hxy hyz hzx
      | some t =>
        cases hz : Timestamp.ofText? z with
        | none =>
          rw [compareReading_of_timestamps hx hy] at hxy
          rw [compareReading_of_plain (.inr hz)] at hyz
          rw [compareReading_of_plain (.inl hz)] at hzx
          exact .last hx hy hz hxy hyz hzx
        | some u =>
          rw [compareReading_of_timestamps hx hy] at hxy
          rw [compareReading_of_timestamps hy hz] at hyz
          rw [compareReading_of_timestamps hz hx] at hzx
          exact (TransCmp.le_trans hxy hyz (OrientedCmp.gt_of_lt hzx)).elim

instance : Decidable (Cycle x y z) := decidable_of_iff _ cycle_iff.symm

/-! ## Ranges -/

/-- A range of texts selects the rows whose text is at least the one bound and at most the other. -/
theorem Entity.selects_texts_iff {e : Entity} {field text : String} {row : Json}
    (hfield : field ∈ e.queryable) (h : e.Holds field (.string text) row) (low high : String) :
    e.Selects (.ranging field (.string low) (.string high)) row
      ↔ AtMost low text ∧ AtMost text high := by
  have hlow : compareReading text low ≠ .lt ↔ AtMost low text := by
    unfold AtMost
    rw [not_iff_not, OrientedCmp.gt_iff_lt]
  rw [selects_ranging_iff hfield (isOperand_string low) (isOperand_string high) h, ← hlow]
  simp [compareScalar, AtMost]

/-- **A wider range keeps a row unless there is a cycle.** Of the rows that lie between two texts, a
range with bounds at most as low and at least as high loses exactly those whose text makes up a
cycle with the bounds below it or with the bounds above it. In a cycle two of the three texts are
timestamps and one is not; without one, the comparison is transitive. -/
theorem widening_keeps_iff {e : Entity} {field : String} (hfield : field ∈ e.queryable)
    {low high low' high' : String} (hlow : AtMost low' low) (hhigh : AtMost high high') :
    (∀ {text row}, e.Holds field (.string text) row →
        e.Selects (.ranging field (.string low) (.string high)) row →
          (e.Selects (.ranging field (.string low') (.string high')) row
            ↔ ¬ Cycle low' low text ∧ ¬ Cycle text high high'))
      ∧ (∀ x y z, AtMost x y → AtMost y z → (AtMost x z ↔ ¬ Cycle x y z))
      ∧ ∀ x y z, Cycle x y z → timestampCount x y z = 2 := by
  have htrans : ∀ x y z, AtMost x y → AtMost y z → (AtMost x z ↔ ¬ Cycle x y z) := by
    intro x y z hxy hyz
    rw [cycle_iff, and_iff_right hxy, and_iff_right hyz, Decidable.not_not]
  refine ⟨?_, htrans, fun x y z h => h.timestampCount_eq⟩
  intro text row hrow hselects
  obtain ⟨habove, hbelow⟩ := (Entity.selects_texts_iff hfield hrow low high).mp hselects
  rw [Entity.selects_texts_iff hfield hrow, htrans low' low text hlow habove,
    htrans text high high' hbelow hhigh]

/-! ### A late arrival -/

namespace Sample

def arrival (text : String) : Json := .object [("id", integer 1), ("joined", .string text)]

theorem arrival_holds (text : String) : guests.Holds "joined" (.string text) (arrival text) := by
  refine ⟨?_, rfl⟩
  rintro (h | h) <;> cases h

/-- A lower bound that breaks off behind the `T` is no timestamp. It is less than any text that goes
on from there, but greater than a later point in time whose day and time a space divides. -/
theorem late_arrival_lost :
    AtMost "2024-01-05T" "2024-01-05T10:00:00" ∧ AtMost "3" "3"
      ∧ guests.Selects (.ranging "joined" (.string "2024-01-05T10:00:00") (.string "3"))
        (arrival "2024-01-05 23:59:59")
      ∧ ¬ guests.Selects (.ranging "joined" (.string "2024-01-05T") (.string "3"))
        (arrival "2024-01-05 23:59:59") := by
  have hjoined : "joined" ∈ guests.queryable := by decide +kernel
  rw [Entity.selects_texts_iff hjoined (arrival_holds _),
    Entity.selects_texts_iff hjoined (arrival_holds _)]
  decide +kernel

/-- The same bounds keep a guest who joined in between and writes the time as they do. -/
theorem noon_arrival_kept :
    "joined" ∈ guests.queryable ∧ AtMost "2024-01-05T" "2024-01-05T10:00:00" ∧ AtMost "3" "3"
      ∧ guests.Holds "joined" (.string "2024-01-05T12:00:00") (arrival "2024-01-05T12:00:00")
      ∧ guests.Selects (.ranging "joined" (.string "2024-01-05T10:00:00") (.string "3"))
        (arrival "2024-01-05T12:00:00")
      ∧ guests.Selects (.ranging "joined" (.string "2024-01-05T") (.string "3"))
        (arrival "2024-01-05T12:00:00")
      ∧ Cycle "2024-01-05T" "2024-01-05T10:00:00" "2024-01-05 23:59:59" := by
  have hjoined : "joined" ∈ guests.queryable := by decide +kernel
  have hlow : AtMost "2024-01-05T" "2024-01-05T10:00:00" := by decide +kernel
  have hhigh : AtMost "3" "3" := by decide +kernel
  have hnarrow : guests.Selects (.ranging "joined" (.string "2024-01-05T10:00:00") (.string "3"))
      (arrival "2024-01-05T12:00:00") := by
    rw [Entity.selects_texts_iff hjoined (arrival_holds _)]
    decide +kernel
  obtain ⟨hkeeps, htrans, -⟩ := widening_keeps_iff hjoined hlow hhigh
  refine ⟨hjoined, hlow, hhigh, arrival_holds _, hnarrow,
    (hkeeps (arrival_holds _) hnarrow).mpr (by decide +kernel), ?_⟩
  by_contra hcycle
  have hle := (htrans "2024-01-05T" "2024-01-05T10:00:00" "2024-01-05 23:59:59" hlow
    (by decide +kernel)).mpr hcycle
  exact absurd hle (by decide +kernel)

end Sample

end Sift

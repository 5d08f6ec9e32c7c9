import Sift.Proofs.Binary64.Integers
import Sift.Proofs.Compile.Single

/-!
# Integers in columns

A column that holds an integer is compared and sorted through the floating-point format, and so is
an integer that a document compares it with. Two integers that are read as different numbers
compare as they do by themselves; integers that are read as one number are equal to every operator
and tie in every sort, although the document, the plan and the row keep all their digits.

`Entity.ComparesExactly` says what a client expects of two integers, and the main statement says of
which two it holds.

Main statement: `comparesExactly_iff_toldApart`.
-/

namespace Sift

/-! ## Operators as relations -/

/-- The integers are in the relation that the operator names. -/
def Operator.Relates : Operator → Int → Int → Prop
  | .equal, a, b => a = b
  | .notEqual, a, b => a ≠ b
  | .less, a, b => a < b
  | .lessOrEqual, a, b => a ≤ b
  | .greater, a, b => b < a
  | .greaterOrEqual, a, b => b ≤ a
  | .like, _, _ => False

theorem Operator.accepts_compare_iff {op : Operator} {a b : Int} :
    op.accepts (compare a b) = true ↔ op.Relates a b := by
  rcases Int.lt_trichotomy a b with h | rfl | h
  · rw [Int.compare_eq_lt.mpr h]
    cases op <;> simp [accepts, Relates] <;> omega
  · rw [Int.compare_eq_eq.mpr rfl]
    cases op <;> simp [accepts, Relates]
  · rw [Int.compare_eq_gt.mpr h]
    cases op <;> simp [accepts, Relates] <;> omega

/-! ## How they compare -/

open Binary64 (ofInt integerCompare)

/-- An integer column and an integer operand compare after rounding. -/
theorem compareScalar_integer (a b : Int) :
    compareScalar (.number (.integer a)) (.ofNumber (.integer b)) = some (integerCompare a b) := by
  rw [compareScalar_number]
  exact Binary64.compare?_ofInt a b

/-- The sort rounds integers as well. -/
theorem compareValues_integer (a b : Int) :
    compareValues (some (.number (.integer a))) (some (.number (.integer b)))
      = integerCompare a b :=
  Binary64.totalCompare_ofInt a b

/-- The format has a number for each of the two integers, unless they are one. -/
def ToldApart (a b : Int) : Prop := ofInt a = ofInt b → a = b

/-! ## What documents make of them -/

namespace Entity

variable {e : Entity} {field : String} {a b : Int} {row row' : Json}

/-- One comparison selects the row by how the rounded integers compare. -/
theorem selects_integer_iff (hfield : field ∈ e.queryable) {c : Condition} {op : Operator}
    (hc : c.Asks field op (.number (.integer b))) (h : e.Holds field (.number (.integer a)) row) :
    e.Selects (.comparing c) row ↔ op.accepts (integerCompare a b) = true := by
  rw [selects_comparing_iff hfield hc (isOperand_number _) h, compareScalar_integer,
    Option.any_some]

/-- A range selects the row by how its integer compares with both ends after rounding. -/
theorem selects_integers_iff (hfield : field ∈ e.queryable)
    (h : e.Holds field (.number (.integer a)) row) (low high : Int) :
    e.Selects (.ranging field (.number (.integer low)) (.number (.integer high))) row
      ↔ integerCompare a low ≠ .lt ∧ integerCompare a high ≠ .gt := by
  rw [selects_ranging_iff hfield (isOperand_number _) (isOperand_number _) h,
    compareScalar_integer, compareScalar_integer, Option.any_some, Option.any_some, bne_iff_ne,
    bne_iff_ne]

/-- A row that holds `a` is selected by those comparisons with `b` that hold of the two integers,
and it is sorted before every row that holds `b` if `a` is less. -/
structure ComparesExactly (e : Entity) (field : String) (a b : Int) : Prop where
  selected : ∀ {row c op}, e.Holds field (.number (.integer a)) row →
    c.Asks field op (.number (.integer b)) → (e.Selects (.comparing c) row ↔ op.Relates a b)
  sorted : ∀ {row row'}, e.Holds field (.number (.integer a)) row →
    e.Holds field (.number (.integer b)) row' → a < b → e.SortsBefore (.ascending field) row row'

/-- Integers that compare exactly are not rounded to the same number. -/
theorem ComparesExactly.toldApart (hfield : field ∈ e.queryable)
    (h : e.ComparesExactly field a b) : ToldApart a b := by
  intro hsame
  obtain ⟨row, hrow⟩ := e.exists_holds field (show Json.number (.integer a) ≠ .null from nofun)
  have hasks := asks_text .equal nofun field (.number (.integer b))
  -- Equality selects the row, since the format cannot tell the integers apart.
  have hselects := (selects_integer_iff hfield hasks hrow).mpr
    (by rw [integerCompare, if_pos hsame]; rfl)
  exact (h.selected hrow hasks).mp hselects

/-- Integers that are not rounded to the same number compare exactly under every operator. -/
theorem comparesExactly_of_toldApart (hfield : field ∈ e.queryable) (h : ToldApart a b) :
    e.ComparesExactly field a b := by
  have hcompare : integerCompare a b = compare a b := Binary64.integerCompare_eq_compare_iff.mpr h
  constructor
  · intro row c op hrow hasks
    rw [selects_integer_iff hfield hasks hrow, hcompare, Operator.accepts_compare_iff]
  · intro row row' hrow hrow' hlt
    have hvalues : compareValues (row.field? field) (row'.field? field) = .lt := by
      rw [hrow.value, hrow'.value, compareValues_integer, hcompare]
      exact Int.compare_eq_lt.mpr hlt
    rw [sortsBefore_ascending_iff hfield, compareRows_settledSort (by rw [hvalues]; nofun), hvalues]

end Entity

/-- **Integers compare exactly if the format tells them apart.** A row that holds `a` is selected by
exactly the comparisons with `b` that hold of the two integers, and sorted as they are, if and only
if they are equal or are read as different numbers; integers that are read as one number are equal
to every operator. A range may only take in too much: it selects a row also if its integer is read
as the same number as a bound. Integers below `2 ^ 53` in absolute value are told apart from all
others. -/
theorem comparesExactly_iff_toldApart {e : Entity} {field : String} (hfield : field ∈ e.queryable) :
    (∀ a b, e.ComparesExactly field a b ↔ ToldApart a b)
      ∧ (∀ {a b row c op}, ofInt a = ofInt b → e.Holds field (.number (.integer a)) row →
        c.Asks field op (.number (.integer b)) → (e.Selects (.comparing c) row ↔ op.Relates b b))
      ∧ (∀ {a row}, e.Holds field (.number (.integer a)) row → ∀ low high,
        (e.Selects (.ranging field (.number (.integer low)) (.number (.integer high))) row
          ↔ (low ≤ a ∨ ofInt low = ofInt a) ∧ (a ≤ high ∨ ofInt a = ofInt high)))
      ∧ ∀ a b : Int, a.natAbs < 2 ^ 53 ∨ b.natAbs < 2 ^ 53 → ToldApart a b := by
  refine ⟨?_, ?_, ?_, ?_⟩
  · intro a b
    exact ⟨fun h => h.toldApart hfield, Entity.comparesExactly_of_toldApart hfield⟩
  · intro a b row c op hsame hrow hasks
    rw [Entity.selects_integer_iff hfield hasks hrow, integerCompare, if_pos hsame,
      ← Operator.accepts_compare_iff, Int.compare_eq_eq.mpr rfl]
  · intro a row hrow low high
    rw [Entity.selects_integers_iff hfield hrow, Binary64.integerCompare_ne_lt_iff,
      Binary64.integerCompare_ne_gt_iff, eq_comm (a := ofInt a) (b := ofInt low)]
  -- Below `2 ^ 53` an integer shares its number with no other.
  · rintro a b (ha | hb) hsame
    · exact (Binary64.eq_of_ofInt_eq ha hsame.symm).symm
    · exact Binary64.eq_of_ofInt_eq hb hsame

/-! ### Keys with sixteen digits -/

namespace Sample

def ann (key : Int) : Json := row (integer key) "Ann" (integer 30)

theorem ann_holds (key : Int) : users.Holds "id" (integer key) (ann key) := by
  refine ⟨?_, rfl⟩
  rintro (h | h) <;> cases h

/-- The keys `2 ^ 53` and `2 ^ 53 + 1` are read as one number. So a client who asks for the one is
shown the other, by equality as well as within bounds, and the smaller does not come first. -/
theorem neighbours_confused :
    users.Selects (.comparing ⟨"id", some "=", integer 9007199254740992⟩) (ann 9007199254740993)
      ∧ users.Selects (.ranging "id" (integer 9007199254740990) (integer 9007199254740992))
        (ann 9007199254740993)
      ∧ ¬ users.SortsBefore (.ascending "id") (ann 9007199254740992) (ann 9007199254740993)
      ∧ ¬ users.ComparesExactly "id" 9007199254740993 9007199254740992 := by
  have hselects : users.Selects (.comparing ⟨"id", some "=", integer 9007199254740992⟩)
      (ann 9007199254740993) :=
    ⟨{ Plan.empty with predicates := [⟨"id", .equal, .integer 9007199254740992⟩] },
      by decide +kernel, by decide +kernel⟩
  refine ⟨hselects, ?_, ?_, ?_⟩
  · exact ⟨{ Plan.empty with
        ranges := [⟨"id", .integer 9007199254740990, .integer 9007199254740992⟩] },
      by decide +kernel, by decide +kernel⟩
  · rw [Entity.sortsBefore_ascending_iff (by decide +kernel)]
    decide +kernel
  · intro h
    have hequal := (h.selected (ann_holds _) (asks_text .equal nofun "id" _)).mp hselects
    simp [Operator.Relates] at hequal

/-- Keys that count milliseconds compare exactly; `2 ^ 53 + 1` lies between `2 ^ 53 - 1` and
`2 ^ 53`, as it is read as the same number as the latter. -/
theorem milliseconds_compare_exactly :
    "id" ∈ users.queryable ∧ users.ComparesExactly "id" 1700000000000 1700000000001
      ∧ ¬ ToldApart 9007199254740993 9007199254740992
      ∧ users.Holds "id" (integer 9007199254740993) (ann 9007199254740993)
      ∧ users.Selects (.ranging "id" (integer 9007199254740991) (integer 9007199254740992))
        (ann 9007199254740993) := by
  have hid : "id" ∈ users.queryable := by decide +kernel
  obtain ⟨hexact, -, hrange, hsmall⟩ := comparesExactly_iff_toldApart hid
  refine ⟨hid, (hexact _ _).mpr (hsmall _ _ (.inl (by decide))), ?_, ann_holds _,
    (hrange (ann_holds _) _ _).mpr (by decide +kernel)⟩
  unfold ToldApart
  decide +kernel

end Sample

end Sift

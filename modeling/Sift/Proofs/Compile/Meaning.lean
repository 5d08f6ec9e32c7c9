import Sift.Proofs.Compile.Inversion
import Sift.Proofs.Document.Meaning

/-!
# Compilation keeps the meaning of a document

The plan that a document compiles to selects exactly the rows that the document admits. The proof
goes entry by entry: what an entry compiles to holds of a row when the entry does
(`comparison_holds_iff`, `datePredicate_holds_iff`, `nullCheck_holds_iff`, `range_holds_iff`), and
a plan is the conjunction of its parts, apart from the ranges.

Main statement: `selects_iff_admits`.
-/

namespace Sift

/-! ## Columns and texts -/

/-- Null and missing are the same to a query. -/
theorem isNullColumn_iff {row : Json} {field : String} :
    isNullColumn row field = true ↔ Absent row field := by
  unfold isNullColumn Absent
  split <;> simp_all

theorem Like.symbols_append (p q : String) :
    Like.symbols (p ++ q) = Like.symbols p ++ Like.symbols q := by
  simp [Like.symbols]

/-- The pattern that an operand stands for matches the texts that are like the operand. -/
theorem matchesText_ofOperand (operand text : String) :
    Like.matchesText (Like.ofOperand operand) text = true ↔ Like.IsLike operand text := by
  rw [Like.matchesText_iff]
  unfold Like.IsLike Like.ofOperand
  by_cases h : '%' ∈ operand.toList
  · simp [h]
  · have hrun : Like.symbols "%" = [.anyRun] := rfl
    simp [h, Like.symbols_append, hrun]

/-! ## Parts of a plan -/

/-- A pattern is held against the text that the column is written as, if it is a scalar. -/
theorem predicate_like_holds_iff {field pattern : String} {row : Json} :
    (Predicate.mk field .like (.text pattern)).holds row = true
      ↔ ∃ text, columnText? row field = some text ∧ Like.matchesText pattern text = true := by
  unfold Predicate.holds columnText?
  cases row.field? field with
  | none => simp
  | some value => cases h : value.scalarText? <;> simp [h]

/-- All other operators go by the comparison of the column with the operand. -/
theorem predicate_holds_iff {field : String} {op : Operator} {operand : Scalar} {row : Json}
    (hop : op ≠ .like) :
    (Predicate.mk field op operand).holds row = true ↔ Compares row field op operand := by
  unfold Predicate.holds Compares
  cases row.field? field with
  | none => simp
  | some value => cases op <;> simp_all [Option.any_eq_true]

theorem nullCheck_holds_iff {field : String} {isNull : Bool} {row : Json} :
    (NullCheck.mk field isNull).holds row = true
      ↔ if isNull then Absent row field else ¬ Absent row field := by
  unfold NullCheck.holds
  rw [← isNullColumn_iff]
  cases isNull <;> simp

theorem range_holds_iff {field : String} {low high : Scalar} {row : Json} :
    (RangeCheck.mk field low high).holds row = true ↔ LiesBetween row field low high := by
  unfold RangeCheck.holds LiesBetween Compares
  cases row.field? field with
  | none => simp
  | some value => simp [Option.any_eq_true, Operator.accepts]

/-! ## Compiled entries -/

/-- Whether a row passes what an entry of the comparing clause became. -/
def Comparison.holds : Comparison → Json → Bool
  | .predicate p, row => p.holds row
  | .nullCheck c, row => c.holds row

/-- What an entry becomes holds of the rows that the entry is read to mean. -/
theorem comparison_holds_iff {allowed : FieldSet} {c : Condition} {x : Comparison} {row : Json}
    (h : Compile.comparison allowed c = .ok x) : x.holds row = true ↔ c.Holds row := by
  obtain ⟨-, op, hop, hx⟩ := Compile.comparison_eq_ok_iff.mp h
  unfold Condition.Holds
  rw [operator_eq_ok_iff.mp hop]
  -- The four ways to compile are the four cases of the meaning, in the same order.
  rcases comparisonWith_eq_ok_iff.mp hx with ⟨hnull, rfl, rfl⟩ | ⟨hnull, rfl, rfl⟩ |
    ⟨rfl, operand, hoperand, rfl⟩ | ⟨hnull, hlike, operand, hoperand, rfl⟩
  · rw [hnull]
    exact nullCheck_holds_iff
  · rw [hnull]
    exact nullCheck_holds_iff
  · simp [Comparison.holds, predicate_like_holds_iff, matchesText_ofOperand, hoperand]
  · rw [Comparison.holds, predicate_holds_iff hlike]
    split <;> simp_all

/-- The same for the entries on calendar days. -/
theorem datePredicate_holds_iff {allowed : FieldSet} {c : Condition} {x : DatePredicate}
    {row : Json} (h : Compile.datePredicate allowed c = .ok x) :
    x.holds row = true ↔ c.HoldsOfDay row := by
  obtain ⟨-, op, value, hop, hvalue, rfl⟩ := Compile.datePredicate_eq_ok_iff.mp h
  unfold DatePredicate.holds Condition.HoldsOfDay
  rw [operator_eq_ok_iff.mp hop]
  cases dayOf? row c.field with
  | none => simp
  | some day =>
    rcases dateOperand_eq_ok_iff.mp hvalue with ⟨rfl, operand, hoperand, rfl⟩ |
      ⟨hlike, s, operand, hs, hoperand, rfl⟩
    · simp [matchesText_ofOperand, hoperand]
    · cases op <;> simp_all

/-! ## Ranges -/

/-- A bound makes a range exactly if it is a pair of scalars. -/
theorem range?_boundedOf_eq_some_iff {b : String × Json} {r : RangeCheck} :
    (Compile.boundedOf b).range? = some r
      ↔ ∃ low high, IsPair b.2 low high ∧ r = ⟨b.1, low, high⟩ := by
  unfold Compile.boundedOf
  cases h : Compile.bounds b.2 with
  | error fault =>
    have hno : ∀ low high, ¬ IsPair b.2 low high := by
      intro low high hpair
      rw [← bounds_eq_ok_iff, h] at hpair
      cases hpair
    simp [Bounded.range?, hno]
  | ok pair =>
    have hpair : ∀ low high, IsPair b.2 low high ↔ pair = (low, high) := by
      intro low high
      rw [← bounds_eq_ok_iff, h]
      simp
    simp [Bounded.range?, hpair, Prod.ext_iff, eq_comm]

/-- The ranges of a plan are the pairs among the bounds of the document. -/
theorem mem_ranges_iff {allowed : FieldSet} {d : Document} {x : CompiledEntries}
    (h : CompilesTo allowed d x) {r : RangeCheck} :
    r ∈ x.plan.ranges ↔ ∃ fields ∈ d.between, ∃ b ∈ fields, ∃ low high, IsPair b.2 low high
      ∧ r = ⟨b.1, low, high⟩ := by
  show r ∈ x.bounds.filterMap Bounded.range? ↔ _
  rw [h.bounds_eq, List.filterMap_map, List.mem_filterMap]
  simp only [Function.comp_apply, range?_boundedOf_eq_some_iff, Document.bounds, List.mem_flatten]
  constructor
  · rintro ⟨b, ⟨fields, hfields, hb⟩, hr⟩
    exact ⟨fields, hfields, b, hb, hr⟩
  · rintro ⟨fields, hfields, b, hb, hr⟩
    exact ⟨b, ⟨fields, hfields, hb⟩, hr⟩

/-- The ranges of a plan let the same rows pass as the bounds of its document. -/
theorem inRanges_iff {allowed : FieldSet} {d : Document} {x : CompiledEntries}
    (h : CompilesTo allowed d x) (row : Json) :
    (x.plan.ranges = [] ∨ ∃ r ∈ x.plan.ranges, r.holds row = true)
      ↔ Document.AdmitsBetween d.between row := by
  apply or_congr
  · rw [List.eq_nil_iff_forall_not_mem]
    constructor
    · intro hno fields hfields b hb low high hpair
      exact hno _ ((mem_ranges_iff h).mpr ⟨fields, hfields, b, hb, low, high, hpair, rfl⟩)
    · intro hno r hr
      obtain ⟨fields, hfields, b, hb, low, high, hpair, -⟩ := (mem_ranges_iff h).mp hr
      exact hno fields hfields b hb low high hpair
  · constructor
    · rintro ⟨r, hr, hholds⟩
      obtain ⟨fields, hfields, b, hb, low, high, hpair, rfl⟩ := (mem_ranges_iff h).mp hr
      exact ⟨fields, hfields, b, hb, low, high, hpair, range_holds_iff.mp hholds⟩
    · rintro ⟨fields, hfields, b, hb, low, high, hpair, hlies⟩
      exact ⟨_, (mem_ranges_iff h).mpr ⟨fields, hfields, b, hb, low, high, hpair, rfl⟩,
        range_holds_iff.mpr hlies⟩

/-! ## Whole documents -/

/-- The comparisons and null checks that the comparing clause became hold together when all of its
entries do. -/
theorem comparisons_hold_iff (l : List Comparison) (row : Json) :
    ((∀ p ∈ l.filterMap Comparison.predicate?, p.holds row = true)
        ∧ ∀ c ∈ l.filterMap Comparison.nullCheck?, c.holds row = true)
      ↔ ∀ x ∈ l, x.holds row = true := by
  induction l with
  | nil => simp
  | cons x l ih =>
    rw [List.forall_mem_cons, ← ih]
    cases x with
    | predicate p =>
      simp [Comparison.predicate?, Comparison.nullCheck?, Comparison.holds, and_assoc]
    | nullCheck c =>
      simp [Comparison.predicate?, Comparison.nullCheck?, Comparison.holds, and_left_comm]

/-- The plan of a document selects the rows that the document admits. -/
theorem selects_plan_iff {e : Entity} {d : Document} {x : CompiledEntries}
    (h : CompilesTo e.queryable d x) (row : Json) :
    (Query.resolve e x.plan).selects row = true ↔ d.Admits e.primaryKey row := by
  have hkey : isNullColumn row e.primaryKey = false ↔ ¬ Absent row e.primaryKey := by
    rw [← isNullColumn_iff, Bool.not_eq_true]
  have hconditions : (∀ y ∈ x.comparisons, y.holds row = true) ↔ ∀ c ∈ d.conditions, c.Holds row :=
    (forall_mem_iff_of_forall₂ h.comparisons fun hcy => (comparison_holds_iff hcy).symm).symm
  have hdates : (∀ y ∈ x.dates, y.holds row = true) ↔ ∀ c ∈ d.dates, c.HoldsOfDay row :=
    (forall_mem_iff_of_forall₂ h.dates fun hcy => (datePredicate_holds_iff hcy).symm).symm
  have hnulls : (∀ y ∈ x.nulls, y.holds row = true) ↔ ∀ f ∈ d.nulls, Absent row f := by
    rw [h.nulls_eq, List.forall_mem_map]
    simp only [nullCheck_holds_iff, if_true]
  have hnotNulls : (∀ y ∈ x.notNulls, y.holds row = true) ↔ ∀ f ∈ d.notNulls, ¬ Absent row f := by
    rw [h.notNulls_eq, List.forall_mem_map]
    simp only [nullCheck_holds_iff, Bool.false_eq_true, if_false]
  -- A plan checks for null what is compared with null, and what the two null clauses name.
  have hchecks : (∀ y ∈ x.plan.nullChecks, y.holds row = true)
      ↔ (∀ y ∈ x.comparisons.filterMap Comparison.nullCheck?, y.holds row = true)
        ∧ (∀ y ∈ x.nulls, y.holds row = true) ∧ ∀ y ∈ x.notNulls, y.holds row = true := by
    show (∀ y ∈ _ ++ (x.nulls ++ x.notNulls), y.holds row = true) ↔ _
    rw [List.forall_mem_append, List.forall_mem_append]
  rw [Query.selects_iff]
  show isNullColumn row e.primaryKey = false
    ∧ (∀ p ∈ x.comparisons.filterMap Comparison.predicate?, p.holds row = true)
    ∧ (∀ p ∈ x.dates, p.holds row = true) ∧ (∀ c ∈ x.plan.nullChecks, c.holds row = true)
    ∧ (x.plan.ranges = [] ∨ ∃ r ∈ x.plan.ranges, r.holds row = true) ↔ _
  rw [hkey, hdates, hchecks, hnulls, hnotNulls, inRanges_iff h]
  constructor
  · rintro ⟨hk, hp, hd, ⟨hc, hn, hnn⟩, hb⟩
    exact ⟨hk, hconditions.mp ((comparisons_hold_iff _ row).mp ⟨hp, hc⟩), hd, hn, hnn, hb⟩
  · rintro ⟨hk, hc, hd, hn, hnn, hb⟩
    obtain ⟨hp, hc⟩ := (comparisons_hold_iff _ row).mpr (hconditions.mpr hc)
    exact ⟨hk, hp, hd, ⟨hc, hn, hnn⟩, hb⟩

/-! ## Malformed bounds -/

theorem range?_boundedOf_of_malformed {b : String × Json}
    (h : (Compile.bounds b.2).toBool = false) : (Compile.boundedOf b).range? = none := by
  unfold Compile.boundedOf
  cases hb : Compile.bounds b.2 with
  | ok pair => simp [hb, Except.toBool] at h
  | error fault => rfl

theorem skipped?_boundedOf_of_wellFormed {b : String × Json}
    (h : (Compile.bounds b.2).toBool = true) : (Compile.boundedOf b).skipped? = none := by
  unfold Compile.boundedOf
  cases hb : Compile.bounds b.2 with
  | ok pair => rfl
  | error fault => simp [hb, Except.toBool] at h

/-- Leaving out the malformed bounds leaves the others in their order. -/
theorem bounds_withoutMalformed (d : Document) :
    d.withoutMalformed.bounds = d.bounds.filter fun b => (Compile.bounds b.2).toBool := by
  unfold Document.bounds Document.withoutMalformed
  rw [List.filter_flatten]

/-- Leaving out the malformed bounds of a document only empties the list of those that its plan
leaves out. -/
theorem compile_withoutMalformed {e : Entity} {d : Document} {p : Plan}
    (h : e.compile d = .ok p) :
    e.compile d.withoutMalformed = .ok { p with skipped := [] } := by
  obtain ⟨x, hx, rfl⟩ := compile_eq_ok_iff.mp h
  -- The same compiled entries, but for the bounds that were kept.
  let kept := d.bounds.filter fun b => (Compile.bounds b.2).toBool
  have hfields : ∀ b ∈ d.bounds, b.1 ∈ e.queryable :=
    forall_mem_of_forall₂ hx.bounds fun hb => (Compile.bounded_eq_ok_iff.mp hb).1
  have hranges : (kept.map Compile.boundedOf).filterMap Bounded.range? = x.plan.ranges := by
    show _ = x.bounds.filterMap Bounded.range?
    rw [hx.bounds_eq, List.filterMap_map, List.filterMap_map, List.filterMap_filter]
    congr 1
    funext b
    split
    · rfl
    · next hb => exact (range?_boundedOf_of_malformed (Bool.not_eq_true _ ▸ hb)).symm
  have hskipped : (kept.map Compile.boundedOf).filterMap Bounded.skipped? = [] := by
    rw [List.filterMap_map, List.filterMap_eq_nil_iff]
    intro b hb
    exact skipped?_boundedOf_of_wellFormed (List.mem_filter.mp hb).2
  refine compile_eq_ok_iff.mpr ⟨{ x with bounds := kept.map Compile.boundedOf }, ?_, ?_⟩
  · refine ⟨hx.comparisons, hx.nulls, hx.notNulls, hx.dates, ?_, hx.sort⟩
    rw [bounds_withoutMalformed, List.forall₂_map_right_iff, List.forall₂_same]
    intro b hb
    exact Compile.bounded_eq_ok_iff.mpr ⟨hfields b (List.mem_of_mem_filter hb), rfl⟩
  · show Plan.mk _ _ _ _ _ _ = Plan.mk _ _ _ _ _ _
    rw [hranges, hskipped]
    rfl

/-- **Compiling and then evaluating is what a document means.** The plan that a document compiles
to selects exactly the rows that the document admits, and malformed bounds have no part in it: the
document without them has the same plan, with nothing left out. -/
theorem selects_iff_admits {e : Entity} {d : Document} {p : Plan} (h : e.compile d = .ok p) :
    (∀ row, (Query.resolve e p).selects row = true ↔ d.Admits e.primaryKey row)
      ∧ e.compile d.withoutMalformed = .ok { p with skipped := [] } := by
  refine ⟨?_, compile_withoutMalformed h⟩
  obtain ⟨x, hx, rfl⟩ := compile_eq_ok_iff.mp h
  exact selects_plan_iff hx

/-! ### One entry of every kind -/

namespace Sample

def guests : Entity :=
  (Entity.new "guest" "guests").withQueryable ["name", "age", "joined", "left"]

/-- Adult guests with an `a` in their names who joined on a certain day and have not left; the bound
on the name is malformed. -/
def adults : Document where
  conditions := [⟨"name", some " Like ", .string "a"⟩, ⟨"age", some ">=", .number (.integer 18)⟩,
    ⟨"age", some "<>", .null⟩]
  dates := [⟨"joined", none, .string "2024-01-31"⟩]
  nulls := ["left"]
  notNulls := ["name"]
  between := [[("age", .array [.number (.integer 20), .string "40"]), ("name", .string "x")]]
  order := [⟨"age", some "asc"⟩]

def adultsPlan : Plan where
  predicates := [⟨"name", .like, .text "%a%"⟩, ⟨"age", .greaterOrEqual, .integer 18⟩]
  datePredicates := [⟨"joined", .equal, .day ⟨2024, 1, 31, by decide⟩⟩]
  nullChecks := [⟨"age", false⟩, ⟨"left", true⟩, ⟨"name", false⟩]
  ranges := [⟨"age", .integer 20, .text "40"⟩]
  sort := [⟨"age", .ascending⟩]
  skipped := [⟨"name", .notAPair "a string"⟩]

def guest (name : String) (age : Int) : Json :=
  .object [("id", .number (.integer 1)), ("name", .string name), ("age", .number (.integer age)),
    ("joined", .string "2024-01-31T10:00:00")]

/-- Of two guests who differ in their ages, one lies between the bounds. -/
theorem adults_admits_guest :
    guests.compile adults = .ok adultsPlan ∧ adults.Admits "id" (guest "Dana" 40)
      ∧ ¬ adults.Admits "id" (guest "Dana" 41)
      ∧ guests.compile adults.withoutMalformed = .ok { adultsPlan with skipped := [] } := by
  have h : guests.compile adults = .ok adultsPlan := by decide +kernel
  obtain ⟨hadmits, hmalformed⟩ := selects_iff_admits h
  refine ⟨h, (hadmits _).mp (by decide +kernel), ?_, hmalformed⟩
  intro hold
  have hselects := (hadmits _).mpr hold
  have hno : (Query.resolve guests adultsPlan).selects (guest "Dana" 41) = false := by
    decide +kernel
  rw [hno] at hselects
  cases hselects

end Sample

end Sift

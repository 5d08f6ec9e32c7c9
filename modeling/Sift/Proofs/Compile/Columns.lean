import Sift.Proofs.Compile.Inversion

/-!
# The columns of documents and plans

A document names columns in each of its six clauses, and so does a plan in each of its parts. What
compiles mentions exactly the columns that the document names (`mem_columns_iff_of_compile`), and
all of them are in the allow-list (`mem_allowed_of_compile`): a document that names another column
is rejected, whichever clause it is in.

Main statements: `mem_allowed_of_compile` and `mem_columns_iff_of_compile`.
-/

namespace Sift

/-! ## Names -/

/-- The columns that a clause of the document names. -/
def Document.named (d : Document) : Clause → List String
  | .compare => d.conditions.map Condition.field
  | .date => d.dates.map Condition.field
  | .isNull => d.nulls
  | .notNull => d.notNulls
  | .between => d.bounds.map Prod.fst
  | .order => d.order.map OrderEntry.field

/-- The columns that a plan mentions, those of the ranges that were left out included. -/
def Plan.columns (p : Plan) : List String :=
  p.predicates.map Predicate.field ++ p.datePredicates.map DatePredicate.field
    ++ p.nullChecks.map NullCheck.field ++ p.ranges.map RangeCheck.field
    ++ p.skipped.map SkippedRange.field ++ p.sort.map SortKey.field

/-- The column of what an entry of the comparing clause became. -/
def Comparison.field : Comparison → String
  | .predicate p => p.field
  | .nullCheck c => c.field

def Bounded.field : Bounded → String
  | .range r => r.field
  | .skipped s => s.field

/-! ## Single entries -/

namespace Compile

theorem field_of_comparisonWith {field : String} {op : Operator} {value : Json} {x : Comparison}
    (h : comparisonWith field op value = .ok x) : x.field = field := by
  rcases comparisonWith_eq_ok_iff.mp h with ⟨-, -, rfl⟩ | ⟨-, -, rfl⟩ | ⟨-, -, -, rfl⟩ |
    ⟨-, -, -, -, rfl⟩ <;> rfl

theorem field_boundedOf (b : String × Json) : (boundedOf b).field = b.1 := by
  unfold boundedOf
  split <;> rfl

end Compile

/-! ## Whole documents -/

/-- If every item is of one of two sorts, the names of a list are those of its two parts. -/
theorem mem_names_of_parts {α β γ : Type} {name : α → String} {left : α → Option β}
    {right : α → Option γ} {nameLeft : β → String} {nameRight : γ → String}
    (h : ∀ x, (∃ b, left x = some b ∧ right x = none ∧ nameLeft b = name x)
      ∨ ∃ b, left x = none ∧ right x = some b ∧ nameRight b = name x) {c : String} (l : List α) :
    c ∈ l.map name ↔ c ∈ (l.filterMap left).map nameLeft
      ∨ c ∈ (l.filterMap right).map nameRight := by
  induction l with
  | nil => simp
  | cons x l ih =>
    rw [List.map_cons, List.mem_cons, ih]
    rcases h x with ⟨b, hleft, hright, hname⟩ | ⟨b, hleft, hright, hname⟩
    · simp [hleft, hright, hname, or_assoc]
    · simp [hleft, hright, hname, or_left_comm]

/-- A comparison with null becomes a check and every other a predicate; neither loses its column. -/
theorem mem_comparison_fields {c : String} (l : List Comparison) :
    c ∈ l.map Comparison.field ↔ c ∈ (l.filterMap Comparison.predicate?).map Predicate.field
      ∨ c ∈ (l.filterMap Comparison.nullCheck?).map NullCheck.field := by
  apply mem_names_of_parts
  intro x
  cases x with
  | predicate p => exact .inl ⟨p, rfl, rfl, rfl⟩
  | nullCheck c => exact .inr ⟨c, rfl, rfl, rfl⟩

/-- A range and a skipped range both keep the column of their entry. -/
theorem mem_bounded_fields {c : String} (l : List Bounded) :
    c ∈ l.map Bounded.field ↔ c ∈ (l.filterMap Bounded.range?).map RangeCheck.field
      ∨ c ∈ (l.filterMap Bounded.skipped?).map SkippedRange.field := by
  apply mem_names_of_parts
  intro x
  cases x with
  | range r => exact .inl ⟨r, rfl, rfl, rfl⟩
  | skipped s => exact .inr ⟨s, rfl, rfl, rfl⟩

namespace CompilesTo

variable {allowed : FieldSet} {d : Document} {x : CompiledEntries}

theorem comparison_fields_eq (h : CompilesTo allowed d x) :
    x.comparisons.map Comparison.field = d.conditions.map Condition.field := by
  apply map_eq_map_of_forall₂ h.comparisons
  intro c y hy
  obtain ⟨-, op, -, hy⟩ := Compile.comparison_eq_ok_iff.mp hy
  exact Compile.field_of_comparisonWith hy

theorem date_fields_eq (h : CompilesTo allowed d x) :
    x.dates.map DatePredicate.field = d.dates.map Condition.field := by
  apply map_eq_map_of_forall₂ h.dates
  intro c y hy
  obtain ⟨-, op, value, -, -, rfl⟩ := Compile.datePredicate_eq_ok_iff.mp hy
  rfl

theorem bounded_fields_eq (h : CompilesTo allowed d x) :
    x.bounds.map Bounded.field = d.bounds.map Prod.fst := by
  rw [h.bounds_eq, List.map_map]
  exact List.map_congr_left fun b _ => Compile.field_boundedOf b

/-- A plan mentions what its document names. -/
theorem mem_columns_iff (h : CompilesTo allowed d x) (c : String) :
    c ∈ x.plan.columns ↔ ∃ clause, c ∈ d.named clause := by
  have hcomparisons := mem_comparison_fields (c := c) x.comparisons
  have hbounds := mem_bounded_fields (c := c) x.bounds
  rw [h.comparison_fields_eq] at hcomparisons
  rw [h.bounded_fields_eq] at hbounds
  have hnulls : x.nulls.map NullCheck.field = d.nulls := by
    rw [h.nulls_eq, List.map_map]
    exact List.map_id _
  have hnotNulls : x.notNulls.map NullCheck.field = d.notNulls := by
    rw [h.notNulls_eq, List.map_map]
    exact List.map_id _
  have hsort : x.sort.map SortKey.field = d.order.map OrderEntry.field := by
    rw [h.sort_eq, List.map_map]
    rfl
  -- Null checks come from three clauses, and the entries of two clauses go to two places each.
  have hplan : c ∈ x.plan.columns ↔ c ∈ d.named .compare ∨ c ∈ d.named .date
      ∨ c ∈ d.named .isNull ∨ c ∈ d.named .notNull ∨ c ∈ d.named .between ∨ c ∈ d.named .order := by
    simp only [Plan.columns, CompiledEntries.plan, Document.named, List.map_append, List.mem_append,
      hcomparisons, hbounds, hnulls, hnotNulls, hsort, h.date_fields_eq]
    grind
  rw [hplan]
  constructor
  · rintro (hc | hc | hc | hc | hc | hc)
    · exact ⟨.compare, hc⟩
    · exact ⟨.date, hc⟩
    · exact ⟨.isNull, hc⟩
    · exact ⟨.notNull, hc⟩
    · exact ⟨.between, hc⟩
    · exact ⟨.order, hc⟩
  · rintro ⟨clause, hc⟩
    cases clause <;> simp [hc]

/-- Every column that a compiled document names is in the allow-list. -/
theorem mem_allowed (h : CompilesTo allowed d x) {clause : Clause} {c : String}
    (hc : c ∈ d.named clause) : c ∈ allowed := by
  have hconditions : ∀ entry ∈ d.conditions, entry.field ∈ allowed :=
    forall_mem_of_forall₂ h.comparisons fun hy => (Compile.comparison_eq_ok_iff.mp hy).1
  have hdates : ∀ entry ∈ d.dates, entry.field ∈ allowed :=
    forall_mem_of_forall₂ h.dates fun hy => (Compile.datePredicate_eq_ok_iff.mp hy).1
  have hbounds : ∀ entry ∈ d.bounds, entry.1 ∈ allowed :=
    forall_mem_of_forall₂ h.bounds fun hy => (Compile.bounded_eq_ok_iff.mp hy).1
  have horder : ∀ entry ∈ d.order, entry.field ∈ allowed :=
    forall_mem_of_forall₂ h.sort fun hy => (Compile.sortKey_eq_ok_iff.mp hy).1
  cases clause with
  | compare => exact List.forall_mem_map.mpr hconditions c hc
  | date => exact List.forall_mem_map.mpr hdates c hc
  | isNull =>
    exact forall_mem_of_forall₂ h.nulls (fun hy => (Compile.nullCheck_eq_ok_iff.mp hy).1) c hc
  | notNull =>
    exact forall_mem_of_forall₂ h.notNulls (fun hy => (Compile.nullCheck_eq_ok_iff.mp hy).1) c hc
  | between => exact List.forall_mem_map.mpr hbounds c hc
  | order => exact List.forall_mem_map.mpr horder c hc

end CompilesTo

variable {allowed : FieldSet} {d : Document} {p : Plan}

/-- Every column that a compiled document names is allowed, in whichever clause it is named. -/
theorem mem_allowed_of_compile (h : d.compile allowed = .ok p) {clause : Clause} {c : String}
    (hc : c ∈ d.named clause) : c ∈ allowed := by
  obtain ⟨x, hx, rfl⟩ := compile_eq_ok_iff.mp h
  exact hx.mem_allowed hc

/-- The columns of a plan are those of its document, skipped ranges included. -/
theorem mem_columns_iff_of_compile (h : d.compile allowed = .ok p) (c : String) :
    c ∈ p.columns ↔ ∃ clause, c ∈ d.named clause := by
  obtain ⟨x, hx, rfl⟩ := compile_eq_ok_iff.mp h
  exact hx.mem_columns_iff c

end Sift

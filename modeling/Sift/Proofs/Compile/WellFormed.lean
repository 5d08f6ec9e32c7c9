import Sift.Proofs.Compile.Columns
import Sift.Proofs.Compile.Meaning
import Sift.Sql.Condition

/-!
# Compiled plans are well formed

A plan is data, and a plan that nobody compiled may hold what no backend can carry out: a comparison
with null, a pattern match against a number, a pattern match against a day. Both backends have an
answer for such parts all the same. In memory they let no row through; in SQL they come out as the
word `NULL` or as `LIKE` between two days.

Compilation never makes such a part (`CompilesTo.wellFormed`), so none of these answers is ever
given. For SQL that is said of the tests of a query (`Sql.Test.IsDirect`). In memory a part either
has a pattern that was built for it or orders a column against its operand; `verdict?` is `none`
where it has neither.

Main statement: `wellFormed_of_compile`.
-/

namespace Sift

/-! ## Well-formed parts -/

/-- The comparison matches a text with a wildcard, or orders a column against something. -/
inductive Predicate.WellFormed : Predicate → Prop
  | pattern {field pattern : String} (h : '%' ∈ pattern.toList) :
      WellFormed ⟨field, .like, .text pattern⟩
  | ordering {field : String} {op : Operator} {operand : Scalar} (hop : op ≠ .like)
      (hoperand : operand ≠ .null) : WellFormed ⟨field, op, operand⟩

/-- The day of a column is matched with a text with a wildcard, or ordered against a day. -/
inductive DatePredicate.WellFormed : DatePredicate → Prop
  | pattern {field pattern : String} (h : '%' ∈ pattern.toList) :
      WellFormed ⟨field, .like, .pattern pattern⟩
  | ordering {field : String} {op : Operator} {day : Date} (hop : op ≠ .like) :
      WellFormed ⟨field, op, .day day⟩

def Comparison.WellFormed : Comparison → Prop
  | .predicate p => p.WellFormed
  | .nullCheck _ => True

/-- The plan only mentions columns of the allow-list, and all its parts can be carried out. -/
structure Plan.WellFormed (allowed : FieldSet) (p : Plan) : Prop where
  columns : ∀ c ∈ p.columns, c ∈ allowed
  predicates : ∀ q ∈ p.predicates, q.WellFormed
  datePredicates : ∀ q ∈ p.datePredicates, q.WellFormed
  ranges : ∀ r ∈ p.ranges, r.low ≠ .null ∧ r.high ≠ .null

/-- A pattern has a wildcard even if its operand has none. -/
theorem Like.mem_ofOperand (operand : String) : '%' ∈ (Like.ofOperand operand).toList := by
  unfold Like.ofOperand
  split
  · next h => simpa using h
  · simp

theorem Scalar.ofJson?_ne_null {value : Json} {s : Scalar} (hvalue : value ≠ .null)
    (h : Scalar.ofJson? value = some s) : s ≠ .null := by
  rintro rfl
  cases value with
  | null => exact hvalue rfl
  | number n =>
    -- A number becomes an integer or a floating-point number.
    cases n <;> simp [Scalar.ofJson?, Scalar.ofNumber] at h
    split at h <;> cases h
  | _ => cases h

namespace Compile

/-- No predicate has null as its operand: such a comparison is turned into a check or refused. -/
theorem comparison_wellFormed {allowed : FieldSet} {c : Condition} {x : Comparison}
    (h : comparison allowed c = .ok x) : x.WellFormed := by
  obtain ⟨-, op, -, h⟩ := comparison_eq_ok_iff.mp h
  rcases comparisonWith_eq_ok_iff.mp h with ⟨-, -, rfl⟩ | ⟨-, -, rfl⟩ | ⟨-, operand, -, rfl⟩ |
    ⟨hvalue, hop, operand, hoperand, rfl⟩
  · trivial
  · trivial
  · exact .pattern (Like.mem_ofOperand operand)
  · exact .ordering hop (Scalar.ofJson?_ne_null hvalue hoperand)

/-- A predicate on days has a pattern for `like` and a day for all other operators. -/
theorem datePredicate_wellFormed {allowed : FieldSet} {c : Condition} {p : DatePredicate}
    (h : datePredicate allowed c = .ok p) : p.WellFormed := by
  obtain ⟨-, op, value, -, hvalue, rfl⟩ := datePredicate_eq_ok_iff.mp h
  rcases dateOperand_eq_ok_iff.mp hvalue with ⟨rfl, operand, -, rfl⟩ | ⟨hop, s, day, -, -, rfl⟩
  · exact .pattern (Like.mem_ofOperand operand)
  · exact .ordering hop

end Compile

theorem CompilesTo.wellFormed {allowed : FieldSet} {d : Document} {x : CompiledEntries}
    (h : CompilesTo allowed d x) : x.plan.WellFormed allowed where
  columns := by
    intro c hc
    obtain ⟨clause, hclause⟩ := (h.mem_columns_iff c).mp hc
    exact h.mem_allowed hclause
  predicates := by
    have hcomparisons : ∀ y ∈ x.comparisons, y.WellFormed :=
      forall_mem_of_forall₂ h.comparisons.flip Compile.comparison_wellFormed
    intro q hq
    obtain ⟨y, hy, hyq⟩ := List.mem_filterMap.mp hq
    -- A comparison that became a check is no predicate of the plan.
    cases y with
    | predicate p => cases hyq; exact hcomparisons _ hy
    | nullCheck c => cases hyq
  datePredicates :=
    forall_mem_of_forall₂ h.dates.flip Compile.datePredicate_wellFormed
  ranges := by
    intro r hr
    obtain ⟨fields, -, b, -, low, high, hpair, rfl⟩ := (mem_ranges_iff h).mp hr
    obtain ⟨l, u, -, -, -, hlow, hhigh⟩ := hpair
    exact ⟨hlow, hhigh⟩

/-! ## In SQL -/

namespace Sql

/-- Every operand of the test is bound to a placeholder, and no operator is written `LIKE`. -/
def Test.IsDirect : Test → Prop
  | .isNull _ | .notNull _ | .likeDay _ _ => True
  | .compare _ op operand => op ≠ .like ∧ operand ≠ .null
  | .like _ pattern => pattern ≠ .null
  | .compareDay _ op _ => op ≠ .like
  | .anyOf ranges => ∀ b ∈ ranges, b.low ≠ .null ∧ b.high ≠ .null

theorem Operand.plain_ne_null {s : Scalar} (h : s ≠ .null) : Operand.plain s ≠ .null := by
  cases s <;> simp_all [Operand.plain, param?]

theorem Operand.against_ne_null {types : ColumnTypes} {field : String} {s : Scalar}
    (h : s ≠ .null) : Operand.against types field s ≠ .null := by
  cases s with
  | text s =>
    unfold Operand.against
    cases types.castTarget? field <;> simp
  | _ => exact Operand.plain_ne_null h

/-- A well-formed plan is rendered with every operand bound to a placeholder. -/
theorem isDirect_of_wellFormed {allowed : FieldSet} {q : Query} (h : q.plan.WellFormed allowed)
    (types : ColumnTypes) : ∀ t ∈ tests types q, t.IsDirect := by
  have hpredicates : ∀ p ∈ q.plan.predicates, (Test.ofPredicate types p).IsDirect := by
    intro p hp
    cases h.predicates p hp with
    | pattern _ => exact Operand.plain_ne_null (by simp)
    | @ordering field op operand hop hoperand =>
      have hagainst : Operand.against types field operand ≠ .null :=
        Operand.against_ne_null hoperand
      cases op with
      | like => exact absurd rfl hop
      | _ => exact ⟨hop, hagainst⟩
  have hdates : ∀ p ∈ q.plan.datePredicates, (Test.ofDatePredicate p).IsDirect := by
    intro p hp
    cases h.datePredicates p hp with
    | pattern _ => trivial
    | ordering hop => exact hop
  have hchecks : ∀ c ∈ q.plan.nullChecks, (Test.ofNullCheck c).IsDirect := by
    intro c _
    unfold Test.ofNullCheck
    split <;> trivial
  have hranges : ∀ b ∈ q.plan.ranges.map (Between.ofRange types),
      b.low ≠ .null ∧ b.high ≠ .null := by
    rw [List.forall_mem_map]
    intro r hr
    exact ⟨Operand.against_ne_null (h.ranges r hr).1, Operand.against_ne_null (h.ranges r hr).2⟩
  -- The first test is on the primary key, and the last one is there if there are ranges.
  unfold tests
  simp only [List.cons_append, List.forall_mem_cons, List.forall_mem_append, List.forall_mem_map]
  refine ⟨trivial, ⟨⟨hpredicates, hdates⟩, hchecks⟩, ?_⟩
  split
  · simp
  · rw [List.forall_mem_singleton]
    exact hranges

end Sql

/-! ## In memory -/

/-- The pattern that is built for a comparison before any row is looked at. -/
def Predicate.pattern? (p : Predicate) : Option String :=
  match p.operator, p.value with
  | .like, .text pattern => some pattern
  | _, _ => none

def DatePredicate.pattern? (p : DatePredicate) : Option String :=
  match p.value with
  | .pattern pattern => some pattern
  | .day _ => none

theorem Plan.patterns_eq (p : Plan) :
    p.patterns = p.predicates.filterMap Predicate.pattern?
      ++ p.datePredicates.filterMap DatePredicate.pattern? :=
  rfl

/-- What a comparison makes of a value, given the pattern that was built for it. Nothing decides a
pattern match for which none was built. -/
def Predicate.verdict? (p : Predicate) (built : Option String) (value : Json) : Option Bool :=
  match p.operator, built with
  | .like, some pattern => some (value.scalarText?.any (Like.matchesText pattern ·))
  | .like, none => none
  | op, _ => some ((compareScalar value p.value).any op.accepts)

/-- What a comparison of days makes of a day, given the pattern that was built for it. -/
def DatePredicate.verdict? (p : DatePredicate) (built : Option String) (day : Date) : Option Bool :=
  match p.value, built with
  | .pattern _, some pattern => some (Like.matchesText pattern day.text)
  | .day operand, _ => some (p.operator.accepts (day.compare operand))
  | .pattern _, none => none

/-- A row passes a comparison when the verdict on its column says so; no verdict counts as no. -/
theorem predicate_holds_eq (p : Predicate) (row : Json) :
    p.holds row = ((row.field? p.field).bind (p.verdict? p.pattern?)).getD false := by
  obtain ⟨field, op, operand⟩ := p
  unfold Predicate.holds Predicate.verdict? Predicate.pattern?
  cases row.field? field with
  | none => rfl
  | some value => cases op <;> cases operand <;> rfl

theorem datePredicate_holds_eq (p : DatePredicate) (row : Json) :
    p.holds row = ((dayOf? row p.field).bind (p.verdict? p.pattern?)).getD false := by
  obtain ⟨field, op, value⟩ := p
  unfold DatePredicate.holds DatePredicate.verdict? DatePredicate.pattern?
  cases dayOf? row field with
  | none => rfl
  | some day => cases value <;> rfl

/-- A well-formed predicate has a verdict on every value. -/
theorem Predicate.WellFormed.verdict_isSome {p : Predicate} (h : p.WellFormed) (value : Json) :
    (p.verdict? p.pattern? value).isSome := by
  cases h with
  | pattern _ => rfl
  | @ordering field op operand hop hoperand =>
    cases op with
    | like => exact absurd rfl hop
    | _ => rfl

/-- A well-formed predicate on days has a verdict on every day. -/
theorem DatePredicate.WellFormed.verdict_isSome {p : DatePredicate} (h : p.WellFormed)
    (day : Date) : (p.verdict? p.pattern? day).isSome := by
  cases h with
  | pattern _ => rfl
  | ordering _ => rfl

/-! ## What compilation makes -/

/-- **Every compiled plan is well formed**, and neither backend ever has to fall back on it: every
test in SQL binds its operands and compares days with an ordering, and in memory every comparison
comes to a verdict, which is what decides about the row. -/
theorem wellFormed_of_compile {allowed : FieldSet} {d : Document} {p : Plan}
    (h : d.compile allowed = .ok p) :
    p.WellFormed allowed
      ∧ (∀ types q, q.plan = p → ∀ t ∈ Sql.tests types q, t.IsDirect)
      ∧ (∀ q ∈ p.predicates, ∀ row value, row.field? q.field = some value →
          q.verdict? q.pattern? value = some (q.holds row))
      ∧ ∀ q ∈ p.datePredicates, ∀ row day, dayOf? row q.field = some day →
          q.verdict? q.pattern? day = some (q.holds row) := by
  obtain ⟨x, hx, rfl⟩ := compile_eq_ok_iff.mp h
  have hplan := hx.wellFormed
  refine ⟨hplan, ?_, ?_, ?_⟩
  · rintro types q hq
    exact Sql.isDirect_of_wellFormed (hq ▸ hplan) types
  · intro q hq row value hvalue
    obtain ⟨b, hb⟩ := Option.isSome_iff_exists.mp ((hplan.predicates q hq).verdict_isSome value)
    rw [predicate_holds_eq, hvalue, Option.bind_some, hb, Option.getD_some]
  · intro q hq row day hday
    obtain ⟨b, hb⟩ := Option.isSome_iff_exists.mp ((hplan.datePredicates q hq).verdict_isSome day)
    rw [datePredicate_holds_eq, hday, Option.bind_some, hb, Option.getD_some]

/-! ### A plan with every kind of part -/

namespace Sample

theorem adultsPlan_wellFormed :
    adults.compile guests.queryable = .ok adultsPlan ∧ adultsPlan.WellFormed guests.queryable
      ∧ ∀ t ∈ Sql.tests (.ofList [("age", "integer")]) (.resolve guests adultsPlan),
        t.IsDirect := by
  have h : adults.compile guests.queryable = .ok adultsPlan := by decide +kernel
  obtain ⟨hplan, htests, -⟩ := wellFormed_of_compile h
  exact ⟨h, hplan, htests _ _ rfl⟩

end Sample

end Sift

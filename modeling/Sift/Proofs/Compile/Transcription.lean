import Sift.Proofs.Compile.Columns
import Sift.Proofs.Compile.Rejection

/-!
# A plan transcribes its document

Compilation loses nothing of a document and adds nothing to it: every entry becomes one item of the
plan, with the column, the operator and the operand of the entry, and the items of a list stand in
the order of their entries. Only two clauses are divided between two lists each. An entry of the
comparing clause becomes a null check if its value is null, and a bound is left out if it is no pair
of scalars other than null.

`Plan.Transcribes` says this of a plan and a document, without the compiler. Together with the
columns being allowed it is all there is to compiling.

Main statement: `compile_eq_ok_iff_transcribes`.
-/

namespace Sift

open List (Forall₂)

/-! ## Single entries -/

/-- The pattern of an operand: the operand itself if it has a `%`, else the operand between two. -/
def Like.Wraps (operand pattern : String) : Prop :=
  if '%' ∈ operand.toList then pattern = operand else pattern = "%" ++ operand ++ "%"

def Json.isNull : Json → Bool
  | .null => true
  | _ => false

/-- The value bounds a range: it is a pair of scalars other than null. -/
def Json.BoundsRange (value : Json) : Prop := ∃ low high, IsPair value low high

/-- The scalar is what a value is compared with behind the operator. -/
def Scalar.Transcribes (s : Scalar) (op : Operator) (value : Json) : Prop :=
  match op with
  | .like => ∃ operand pattern, value.operandText? = some operand ∧ Like.Wraps operand pattern
      ∧ s = .text pattern
  | _ => Scalar.ofJson? value = some s

/-- What the day of a column is held against is what the value says behind the operator. -/
def DateOperand.Transcribes (x : DateOperand) (op : Operator) (value : Json) : Prop :=
  match op with
  | .like => ∃ operand pattern, value.operandText? = some operand ∧ Like.Wraps operand pattern
      ∧ x = .pattern pattern
  | _ => ∃ s day, value = .string s ∧ Date.ofText? s = some day ∧ x = .day day

structure Predicate.Transcribes (p : Predicate) (c : Condition) : Prop where
  field : p.field = c.field
  operator : c.Means p.operator
  value : p.value.Transcribes p.operator c.value

structure DatePredicate.Transcribes (p : DatePredicate) (c : Condition) : Prop where
  field : p.field = c.field
  operator : c.Means p.operator
  value : p.value.Transcribes p.operator c.value

structure NullCheck.Transcribes (n : NullCheck) (c : Condition) : Prop where
  field : n.field = c.field
  operator : c.Means (if n.isNull then .equal else .notEqual)

structure RangeCheck.Transcribes (r : RangeCheck) (b : String × Json) : Prop where
  field : r.field = b.1
  pair : IsPair b.2 r.low r.high

/-- Why a value bounds no range. -/
inductive RangeFault.Explains : RangeFault → Json → Prop
  | notAPair {value : Json} (h : ∀ items, value ≠ .array items) :
      Explains (.notAPair value.kind) value
  | wrongCount {items : List Json} (h : items.length ≠ 2) :
      Explains (.wrongCount items.length) (.array items)
  | notScalars {l u : Json} (h : ¬ Json.BoundsRange (.array [l, u])) :
      Explains .notScalars (.array [l, u])

structure SkippedRange.Transcribes (s : SkippedRange) (b : String × Json) : Prop where
  field : s.field = b.1
  fault : s.fault.Explains b.2

/-- The sort key has the column of the entry, and ascends exactly if the entry asks for `asc`. -/
structure SortKey.Transcribes (k : SortKey) (o : OrderEntry) : Prop where
  field : k.field = o.field
  direction : k.direction = .ascending ↔ ∃ raw, o.order = some raw
    ∧ Text.eqIgnoreAsciiCase (Text.trim raw.toList) "asc".toList = true

/-! ### What they compile to -/

/-- The pattern that an operand stands for is determined by the operand. -/
theorem wraps_iff {operand pattern : String} :
    Like.Wraps operand pattern ↔ pattern = Like.ofOperand operand := by
  unfold Like.Wraps Like.ofOperand
  by_cases h : '%' ∈ operand.toList <;> simp [h]

theorem Json.isNull_iff {value : Json} : value.isNull = true ↔ value = .null := by
  cases value <;> simp [Json.isNull]

/-- A value bounds a range exactly if a pair of scalars can be read from it. -/
theorem Json.boundsRange_iff {value : Json} :
    value.BoundsRange ↔ ∃ pair, Compile.bounds value = .ok pair := by
  unfold Json.BoundsRange
  simp only [← bounds_eq_ok_iff, Prod.exists]

instance : DecidablePred Json.BoundsRange := fun value =>
  decidable_of_iff ((Compile.bounds value).toBool = true) (by
    rw [Json.boundsRange_iff]
    cases Compile.bounds value <;> simp [Except.toBool])

namespace RangeFault.Explains

variable {fault fault' : RangeFault} {value : Json}

theorem not_boundsRange (h : fault.Explains value) : ¬ value.BoundsRange := by
  cases h with
  | notAPair harray =>
    rintro ⟨low, high, l, u, hvalue, -⟩
    exact harray _ hvalue
  | wrongCount hlength =>
    rintro ⟨low, high, l, u, hvalue, -⟩
    cases hvalue
    exact hlength rfl
  | notScalars hpair => exact hpair

/-- No value is explained in two ways. -/
theorem unique (h : fault.Explains value) (h' : fault'.Explains value) : fault = fault' := by
  cases h with
  | notAPair harray =>
    cases h' with
    | notAPair => rfl
    | wrongCount => exact absurd rfl (harray _)
    | notScalars => exact absurd rfl (harray _)
  | wrongCount hlength =>
    cases h' with
    | notAPair harray => exact absurd rfl (harray _)
    | wrongCount => rfl
    | notScalars => exact absurd rfl hlength
  | notScalars =>
    cases h' with
    | notAPair harray => exact absurd rfl (harray _)
    | wrongCount hlength => exact absurd rfl hlength
    | notScalars => rfl

theorem of_bounds (h : Compile.bounds value = .error fault) : fault.Explains value := by
  have hno : ¬ value.BoundsRange := by
    rw [Json.boundsRange_iff, h]
    simp
  unfold Compile.bounds at h
  split at h
  · split at h
    · split at h
      · cases h
        exact .notScalars hno
      · cases h
    · cases h
      exact .notScalars hno
  -- An array that is no pair has another number of items.
  · next items hitems =>
    cases h
    apply wrongCount
    intro hlength
    obtain ⟨l, u, rfl⟩ := List.length_eq_two.mp hlength
    exact hitems l u rfl
  · next harray =>
    cases h
    exact .notAPair harray

end RangeFault.Explains

/-- What is no pair is so for one reason, which is the one reported. -/
theorem bounds_eq_error_iff {value : Json} {fault : RangeFault} :
    Compile.bounds value = .error fault ↔ fault.Explains value := by
  refine ⟨.of_bounds, ?_⟩
  intro h
  cases hbounds : Compile.bounds value with
  | ok pair => exact absurd (Json.boundsRange_iff.mpr ⟨pair, hbounds⟩) h.not_boundsRange
  | error fault' => rw [h.unique (.of_bounds hbounds)]

/-- A comparison transcribes an entry whose value is not null, and a null check one whose value
is. -/
def Comparison.Transcribes : Comparison → Condition → Prop
  | .nullCheck n, c => c.value.isNull = true ∧ n.Transcribes c
  | .predicate p, c => c.value.isNull = false ∧ p.Transcribes c

/-- A range transcribes a bound that is a pair, and what was left out one that is none. -/
def Bounded.Transcribes : Bounded → String × Json → Prop
  | .range r, b => b.2.BoundsRange ∧ r.Transcribes b
  | .skipped s, b => ¬ b.2.BoundsRange ∧ s.Transcribes b

namespace Compile

variable {allowed : FieldSet}

theorem comparisonWith_eq_ok_iff_transcribes {c : Condition} {op : Operator} {x : Comparison}
    (hop : c.Means op) : comparisonWith c.field op c.value = .ok x ↔ x.Transcribes c := by
  rw [comparisonWith_eq_ok_iff]
  constructor
  -- The ways to compile are null under either operator, a pattern, and a scalar.
  · rintro (⟨hnull, rfl, rfl⟩ | ⟨hnull, rfl, rfl⟩ | ⟨rfl, operand, hoperand, rfl⟩ |
      ⟨hnull, hlike, operand, hoperand, rfl⟩)
    · exact ⟨Json.isNull_iff.mpr hnull, rfl, hop⟩
    · exact ⟨Json.isNull_iff.mpr hnull, rfl, hop⟩
    · have hvalue : c.value.isNull = false := by
        cases hvalue : c.value <;> simp_all [Json.isNull, Json.operandText?]
      exact ⟨hvalue, rfl, hop, operand, _, hoperand, wraps_iff.mpr rfl, rfl⟩
    · have hvalue : c.value.isNull = false := by
        rw [← Bool.not_eq_true, Json.isNull_iff]
        exact hnull
      refine ⟨hvalue, rfl, hop, ?_⟩
      cases op with
      | like => exact absurd rfl hlike
      | _ => exact hoperand
  · intro h
    cases x with
    -- A transcription says which operator is meant, and only one operator is.
    | nullCheck n =>
      obtain ⟨hvalue, hfield, hmeans⟩ := h
      obtain ⟨field, isNull⟩ := n
      subst hfield
      cases isNull with
      | true => exact .inl ⟨Json.isNull_iff.mp hvalue, hop.unique hmeans, rfl⟩
      | false => exact .inr (.inl ⟨Json.isNull_iff.mp hvalue, hop.unique hmeans, rfl⟩)
    | predicate p =>
      obtain ⟨hvalue, hfield, hmeans, hoperand⟩ := h
      obtain ⟨field, op', s⟩ := p
      subst hfield
      obtain rfl : op' = op := hmeans.unique hop
      have hnull : c.value ≠ .null := by
        rw [← Bool.not_eq_true, Json.isNull_iff] at hvalue
        exact hvalue
      cases op' with
      | like =>
        obtain ⟨operand, pattern, htext, hwraps, rfl⟩ := hoperand
        obtain rfl := wraps_iff.mp hwraps
        exact .inr (.inr (.inl ⟨rfl, operand, htext, rfl⟩))
      | _ => exact .inr (.inr (.inr ⟨hnull, by decide, s, hoperand, rfl⟩))

/-- An entry compiles to its transcription, and only if its column is allowed. -/
theorem comparison_eq_ok_iff_transcribes {c : Condition} {x : Comparison} :
    comparison allowed c = .ok x ↔ c.field ∈ allowed ∧ x.Transcribes c := by
  rw [comparison_eq_ok_iff]
  apply and_congr_right
  intro _
  simp only [operator_eq_ok_iff, meantOperator?_eq_some_iff]
  constructor
  · rintro ⟨op, hop, h⟩
    exact (comparisonWith_eq_ok_iff_transcribes hop).mp h
  · intro h
    obtain ⟨op, hop⟩ : ∃ op, c.Means op := by
      cases x with
      | nullCheck n => exact ⟨_, h.2.operator⟩
      | predicate p => exact ⟨_, h.2.operator⟩
    exact ⟨op, hop, (comparisonWith_eq_ok_iff_transcribes hop).mpr h⟩

theorem dateOperand_eq_ok_iff_transcribes {op : Operator} {value : Json} {x : DateOperand} :
    dateOperand op value = .ok x ↔ x.Transcribes op value := by
  rw [dateOperand_eq_ok_iff]
  cases op with
  | like => simp [DateOperand.Transcribes, wraps_iff]
  | _ => simp [DateOperand.Transcribes]

theorem datePredicate_eq_ok_iff_transcribes {c : Condition} {p : DatePredicate} :
    datePredicate allowed c = .ok p ↔ c.field ∈ allowed ∧ p.Transcribes c := by
  rw [datePredicate_eq_ok_iff]
  apply and_congr_right
  intro _
  simp only [operator_eq_ok_iff, meantOperator?_eq_some_iff, dateOperand_eq_ok_iff_transcribes]
  constructor
  · rintro ⟨op, value, hop, hvalue, rfl⟩
    exact ⟨rfl, hop, hvalue⟩
  · rintro ⟨hfield, hop, hvalue⟩
    exact ⟨p.operator, p.value, hop, hvalue, by rw [← hfield]⟩

/-- Bounds compile to a range or to a remark that they were skipped, never to nothing. -/
theorem bounded_eq_ok_iff_transcribes {b : String × Json} {x : Bounded} :
    bounded allowed b = .ok x ↔ b.1 ∈ allowed ∧ x.Transcribes b := by
  rw [bounded_eq_ok_iff]
  apply and_congr_right
  intro _
  unfold boundedOf
  -- Either reading of the bounds rules out the other way to be transcribed.
  cases hbounds : bounds b.2 with
  | ok pair =>
    obtain ⟨low, high⟩ := pair
    have hpair := bounds_eq_ok_iff.mp hbounds
    constructor
    · rintro rfl
      exact ⟨⟨low, high, hpair⟩, rfl, hpair⟩
    · intro h
      cases x with
      | skipped s => exact absurd ⟨low, high, hpair⟩ h.1
      | range r =>
        obtain ⟨field, low', high'⟩ := r
        obtain ⟨-, rfl, hpair'⟩ := h
        cases hbounds.symm.trans (bounds_eq_ok_iff.mpr hpair')
        rfl
  | error fault =>
    have hfault := bounds_eq_error_iff.mp hbounds
    constructor
    · rintro rfl
      exact ⟨hfault.not_boundsRange, rfl, hfault⟩
    · intro h
      cases x with
      | range r => exact absurd h.1 hfault.not_boundsRange
      | skipped s =>
        obtain ⟨field, fault'⟩ := s
        obtain ⟨-, rfl, hfault'⟩ := h
        rw [hfault.unique hfault']

/-- A sort goes down unless its direction is `asc`, in any case and with blanks around it. -/
theorem ofOrder_eq_ascending_iff {order : Option String} :
    SortDirection.ofOrder order = .ascending ↔ ∃ raw, order = some raw
      ∧ Text.eqIgnoreAsciiCase (Text.trim raw.toList) "asc".toList = true := by
  unfold SortDirection.ofOrder
  cases order with
  | none => simp
  | some raw => simp

theorem sortKey_eq_ok_iff_transcribes {o : OrderEntry} {k : SortKey} :
    sortKey allowed o = .ok k ↔ o.field ∈ allowed ∧ k.Transcribes o := by
  rw [sortKey_eq_ok_iff]
  apply and_congr_right
  intro _
  constructor
  · rintro rfl
    exact ⟨rfl, ofOrder_eq_ascending_iff⟩
  · rintro ⟨hfield, hdirection⟩
    obtain ⟨field, direction⟩ := k
    subst hfield
    -- There are but two directions.
    have hsame : direction = .ascending ↔ SortDirection.ofOrder o.order = .ascending :=
      hdirection.trans ofOrder_eq_ascending_iff.symm
    congr
    cases direction <;> cases h : SortDirection.ofOrder o.order <;> simp_all

end Compile

/-! ## Lists of entries -/

section Forall₂

variable {α β γ δ : Type} {T : α → δ → Prop} {R : α → β → Prop} {S : α → γ → Prop} {p : α → Bool}
  {left : δ → Option β} {right : δ → Option γ}

/-- If every item becomes one thing or another by a test on it, then the things of the two sorts are
what the items become that pass the test and those that do not, each in order. -/
theorem forall₂_parts_iff (inl : β → δ) (inr : γ → δ)
    (hinl : ∀ b, left (inl b) = some b ∧ right (inl b) = none)
    (hinr : ∀ c, left (inr c) = none ∧ right (inr c) = some c)
    (hT : ∀ a y, T a y ↔ (∃ b, y = inl b ∧ p a = true ∧ R a b)
      ∨ ∃ c, y = inr c ∧ p a = false ∧ S a c) {l : List α} {bs : List β} {cs : List γ} :
    (∃ ys, Forall₂ T l ys ∧ ys.filterMap left = bs ∧ ys.filterMap right = cs)
      ↔ Forall₂ R (l.filter p) bs ∧ Forall₂ S (l.filter (!p ·)) cs := by
  -- Item by item, `p` says on which side its image is, and the other side is left as it was.
  induction l generalizing bs cs with
  | nil => simp [eq_comm]
  | cons a l ih =>
    constructor
    · rintro ⟨_, hall, rfl, rfl⟩
      obtain ⟨y, ys, hy, hys, rfl⟩ := List.forall₂_cons_left_iff.mp hall
      obtain ⟨hleft, hright⟩ := ih.mp ⟨ys, hys, rfl, rfl⟩
      rcases (hT a y).mp hy with ⟨b, rfl, hp, hR⟩ | ⟨c, rfl, hp, hS⟩
      · simpa [hp, hinl, hright] using ⟨hR, hleft⟩
      · simpa [hp, hinr, hleft] using ⟨hS, hright⟩
    · rintro ⟨hpassed, hfailed⟩
      cases hp : p a with
      | true =>
        rw [List.filter_cons_of_pos hp] at hpassed
        rw [List.filter_cons_of_neg (by simp [hp])] at hfailed
        obtain ⟨b, bs, hR, hleft, rfl⟩ := List.forall₂_cons_left_iff.mp hpassed
        obtain ⟨ys, hys, rfl, rfl⟩ := ih.mpr ⟨hleft, hfailed⟩
        exact ⟨inl b :: ys, .cons ((hT _ _).mpr (.inl ⟨b, rfl, hp, hR⟩)) hys, by simp [hinl]⟩
      | false =>
        rw [List.filter_cons_of_neg (by simp [hp])] at hpassed
        rw [List.filter_cons_of_pos (by simp [hp])] at hfailed
        obtain ⟨c, cs, hS, hright, rfl⟩ := List.forall₂_cons_left_iff.mp hfailed
        obtain ⟨ys, hys, rfl, rfl⟩ := ih.mpr ⟨hpassed, hright⟩
        exact ⟨inr c :: ys, .cons ((hT _ _).mpr (.inr ⟨c, rfl, hp, hS⟩)) hys, by simp [hinr]⟩

end Forall₂

/-! ## Whole documents -/

/-- Every entry of the document is one item of the plan, in order, and nothing else is in it. -/
structure Plan.Transcribes (p : Plan) (d : Document) : Prop where
  predicates : Forall₂ (fun c q => q.Transcribes c) (d.conditions.filter (!·.value.isNull))
    p.predicates
  datePredicates : Forall₂ (fun c q => q.Transcribes c) d.dates p.datePredicates
  /-- What is compared with null comes first, then the columns of the two null clauses. -/
  nullChecks : ∃ compared, Forall₂ (fun c n => n.Transcribes c)
      (d.conditions.filter (·.value.isNull)) compared
    ∧ p.nullChecks = compared ++ d.nulls.map (⟨·, true⟩) ++ d.notNulls.map (⟨·, false⟩)
  ranges : Forall₂ (fun b r => r.Transcribes b) (d.between.flatten.filter (·.2.BoundsRange))
    p.ranges
  sort : Forall₂ (fun o k => k.Transcribes o) d.order p.sort
  skipped : Forall₂ (fun b s => s.Transcribes b) (d.between.flatten.filter (¬ ·.2.BoundsRange))
    p.skipped

structure CompiledEntries.Transcribes (x : CompiledEntries) (d : Document) : Prop where
  comparisons : Forall₂ (fun c y => y.Transcribes c) d.conditions x.comparisons
  nulls : x.nulls = d.nulls.map (⟨·, true⟩)
  notNulls : x.notNulls = d.notNulls.map (⟨·, false⟩)
  dates : Forall₂ (fun c q => q.Transcribes c) d.dates x.dates
  bounds : Forall₂ (fun b y => y.Transcribes b) d.between.flatten x.bounds
  sort : Forall₂ (fun o k => k.Transcribes o) d.order x.sort

variable {allowed : FieldSet} {d : Document} {p : Plan} {x : CompiledEntries}

/-- Clause by clause, what the entries compile to is what they transcribe to. -/
theorem compilesTo_iff_transcribes :
    CompilesTo allowed d x ↔ (∀ clause, ∀ c ∈ d.named clause, c ∈ allowed) ∧ x.Transcribes d := by
  constructor
  · intro h
    refine ⟨fun _ _ hc => h.mem_allowed hc, ?_, h.nulls_eq, h.notNulls_eq, ?_, ?_, ?_⟩
    · exact h.comparisons.imp fun _ _ hy => (Compile.comparison_eq_ok_iff_transcribes.mp hy).2
    · exact h.dates.imp fun _ _ hy => (Compile.datePredicate_eq_ok_iff_transcribes.mp hy).2
    · exact h.bounds.imp fun _ _ hy => (Compile.bounded_eq_ok_iff_transcribes.mp hy).2
    · exact h.sort.imp fun _ _ hy => (Compile.sortKey_eq_ok_iff_transcribes.mp hy).2
  · rintro ⟨hallowed, h⟩
    -- From here on every column is known to be allowed, so only the transcription is left of each
    -- entry.
    have hconditions : ∀ c ∈ d.conditions, c.field ∈ allowed :=
      List.forall_mem_map.mp (hallowed .compare)
    have hdates : ∀ c ∈ d.dates, c.field ∈ allowed := List.forall_mem_map.mp (hallowed .date)
    have hbounds : ∀ b ∈ d.between.flatten, b.1 ∈ allowed :=
      List.forall_mem_map.mp (hallowed .between)
    have horder : ∀ o ∈ d.order, o.field ∈ allowed := List.forall_mem_map.mp (hallowed .order)
    refine ⟨?_, ?_, ?_, ?_, ?_, ?_⟩
    · exact ((List.forall₂_and_left ..).mpr ⟨hconditions, h.comparisons⟩).imp
        fun _ _ hy => Compile.comparison_eq_ok_iff_transcribes.mpr hy
    · rw [h.nulls, List.forall₂_map_right_iff, List.forall₂_same]
      exact fun f hf => Compile.nullCheck_eq_ok_iff.mpr ⟨hallowed .isNull f hf, rfl⟩
    · rw [h.notNulls, List.forall₂_map_right_iff, List.forall₂_same]
      exact fun f hf => Compile.nullCheck_eq_ok_iff.mpr ⟨hallowed .notNull f hf, rfl⟩
    · exact ((List.forall₂_and_left ..).mpr ⟨hdates, h.dates⟩).imp
        fun _ _ hy => Compile.datePredicate_eq_ok_iff_transcribes.mpr hy
    · exact ((List.forall₂_and_left ..).mpr ⟨hbounds, h.bounds⟩).imp
        fun _ _ hy => Compile.bounded_eq_ok_iff_transcribes.mpr hy
    · exact ((List.forall₂_and_left ..).mpr ⟨horder, h.sort⟩).imp
        fun _ _ hy => Compile.sortKey_eq_ok_iff_transcribes.mpr hy

/-- The comparisons that entries became, divided into predicates and null checks. -/
theorem comparisons_iff {l : List Condition} {predicates : List Predicate}
    {nullChecks : List NullCheck} :
    (∃ ys : List Comparison, Forall₂ (fun c y => y.Transcribes c) l ys
        ∧ ys.filterMap Comparison.nullCheck? = nullChecks
        ∧ ys.filterMap Comparison.predicate? = predicates)
      ↔ Forall₂ (fun c n => n.Transcribes c) (l.filter (·.value.isNull)) nullChecks
        ∧ Forall₂ (fun c q => q.Transcribes c) (l.filter (!·.value.isNull)) predicates := by
  apply forall₂_parts_iff Comparison.nullCheck Comparison.predicate
  · exact fun _ => ⟨rfl, rfl⟩
  · exact fun _ => ⟨rfl, rfl⟩
  · intro c y
    cases y <;> simp [Comparison.Transcribes]

/-- The bounds divided into ranges and those that are left out. -/
theorem bounds_iff {l : Fields} {ranges : List RangeCheck} {skipped : List SkippedRange} :
    (∃ ys : List Bounded, Forall₂ (fun b y => y.Transcribes b) l ys
        ∧ ys.filterMap Bounded.range? = ranges ∧ ys.filterMap Bounded.skipped? = skipped)
      ↔ Forall₂ (fun b r => r.Transcribes b) (l.filter (·.2.BoundsRange)) ranges
        ∧ Forall₂ (fun b s => s.Transcribes b) (l.filter (¬ ·.2.BoundsRange)) skipped := by
  simp only [decide_not]
  apply forall₂_parts_iff Bounded.range Bounded.skipped
  · exact fun _ => ⟨rfl, rfl⟩
  · exact fun _ => ⟨rfl, rfl⟩
  · intro b y
    cases y <;> simp [Bounded.Transcribes]

/-- A plan transcribes a document if it consists of transcriptions of its entries in their order. -/
theorem plan_transcribes_iff :
    p.Transcribes d ↔ ∃ x : CompiledEntries, x.Transcribes d ∧ p = x.plan := by
  constructor
  · intro h
    obtain ⟨compared, hcompared, hchecks⟩ := h.nullChecks
    obtain ⟨comparisons, hcomparisons, hnull, hpredicates⟩ :=
      comparisons_iff.mpr ⟨hcompared, h.predicates⟩
    obtain ⟨bounds, hbounds, hranges, hskipped⟩ := bounds_iff.mpr ⟨h.ranges, h.skipped⟩
    refine ⟨⟨comparisons, d.nulls.map (⟨·, true⟩), d.notNulls.map (⟨·, false⟩), p.datePredicates,
      bounds, p.sort⟩, ⟨hcomparisons, rfl, rfl, h.datePredicates, hbounds, h.sort⟩, ?_⟩
    rw [CompiledEntries.plan, hnull, hpredicates, hranges, hskipped, ← List.append_assoc,
      ← hchecks]
  · rintro ⟨x, h, rfl⟩
    obtain ⟨hnull, hpredicates⟩ := comparisons_iff.mp ⟨x.comparisons, h.comparisons, rfl, rfl⟩
    obtain ⟨hranges, hskipped⟩ := bounds_iff.mp ⟨x.bounds, h.bounds, rfl, rfl⟩
    refine ⟨hpredicates, h.dates, ⟨_, hnull, ?_⟩, hranges, h.sort, hskipped⟩
    show _ ++ (x.nulls ++ x.notNulls) = _
    rw [h.nulls, h.notNulls, List.append_assoc]

def Plan.size (p : Plan) : Nat :=
  p.predicates.length + p.datePredicates.length + p.nullChecks.length + p.ranges.length
    + p.sort.length + p.skipped.length

/-- No entry is dropped and none is made up. -/
theorem Plan.Transcribes.size_eq (h : p.Transcribes d) : p.size = d.inOrder.length := by
  obtain ⟨compared, hcompared, hchecks⟩ := h.nullChecks
  have hconditions := List.length_eq_length_filter_add (l := d.conditions) (·.value.isNull)
  have hbounds := List.length_eq_length_filter_add (l := d.between.flatten) (·.2.BoundsRange)
  have hskipped := h.skipped.length_eq
  simp only [decide_not] at hskipped
  simp only [Plan.size, Document.inOrder, hchecks, List.length_append, List.length_map,
    ← h.predicates.length_eq, ← h.datePredicates.length_eq, ← hcompared.length_eq,
    ← h.ranges.length_eq, ← h.sort.length_eq, ← hskipped, hconditions, hbounds]
  omega

/-- **Compiling loses nothing and adds nothing.** A document compiles to a plan exactly when its
columns are allowed and the plan transcribes it; so every entry is one item of the plan, and there
are as many items as entries. -/
theorem compile_eq_ok_iff_transcribes (d : Document) (allowed : FieldSet) :
    (∀ p, d.compile allowed = .ok p
        ↔ (∀ clause, ∀ c ∈ d.named clause, c ∈ allowed) ∧ p.Transcribes d)
      ∧ ∀ p, d.compile allowed = .ok p → p.size = d.inOrder.length := by
  have hiff : ∀ p, d.compile allowed = .ok p
      ↔ (∀ clause, ∀ c ∈ d.named clause, c ∈ allowed) ∧ p.Transcribes d := by
    intro p
    rw [compile_eq_ok_iff, plan_transcribes_iff]
    simp only [compilesTo_iff_transcribes, and_assoc, exists_and_left]
  exact ⟨hiff, fun p hp => ((hiff p).mp hp).2.size_eq⟩

/-! ### Nine entries and nine items -/

namespace Sample

/-- One comparison with null is a null check, and one bound is left out; the plan without a trace of
that bound is not the plan of the document. -/
theorem adultsPlan_transcribes :
    adultsPlan.Transcribes adults ∧ adultsPlan.size = 9
      ∧ ¬ Plan.Transcribes { adultsPlan with skipped := [] } adults := by
  have hcompile : adults.compile guests.queryable = .ok adultsPlan := by decide +kernel
  obtain ⟨hiff, hsize⟩ := compile_eq_ok_iff_transcribes adults guests.queryable
  obtain ⟨hallowed, htranscribes⟩ := (hiff adultsPlan).mp hcompile
  refine ⟨htranscribes, hsize adultsPlan hcompile, ?_⟩
  intro hother
  have hcompile' := (hiff _).mpr ⟨hallowed, hother⟩
  rw [hcompile] at hcompile'
  cases hcompile'

end Sample

end Sift

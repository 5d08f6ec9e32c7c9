import Mathlib.Data.List.Forall2
import Sift.Compile.Plan
import Sift.Proofs.Document.Meaning

/-!
# What a successful compilation tells

A document compiles when each of its entries does. `CompilesTo` names what the entries of every
clause became, and `compile_eq_ok_iff` says that the plan consists of nothing else. For a single
entry there is one equivalence per kind of entry: the column is in the allow-list, and the rest of
the entry has a meaning that the allow-list has no part in.

All later facts about plans are read off these equivalences; no other proof unfolds the compiler.
-/

namespace Sift

open List (Forall₂)

/-! ## Computations that may fail -/

section Except

variable {ε ε' α β : Type}

theorem bind_eq_ok_iff {x : Except ε α} {f : α → Except ε β} {b : β} :
    (x >>= f) = .ok b ↔ ∃ a, x = .ok a ∧ f a = .ok b := by
  cases x <;> simp [bind, Except.bind]

theorem map_eq_ok_iff {x : Except ε α} {f : α → β} {b : β} :
    x.map f = .ok b ↔ ∃ a, x = .ok a ∧ f a = b := by
  cases x <;> simp [Except.map]

theorem mapError_eq_ok_iff {x : Except ε α} {f : ε → ε'} {a : α} :
    x.mapError f = .ok a ↔ x = .ok a := by
  cases x <;> simp [Except.mapError]

/-- A traversal succeeds when it does at every item. -/
theorem mapM_eq_ok_iff {f : α → Except ε β} {l : List α} {r : List β} :
    l.mapM f = .ok r ↔ Forall₂ (fun a b => f a = .ok b) l r := by
  induction l generalizing r with
  | nil =>
    rw [List.mapM_nil, List.forall₂_nil_left_iff]
    exact ⟨fun h => (Except.ok.inj h).symm, fun h => congrArg Except.ok h.symm⟩
  | cons a l ih =>
    rw [List.mapM_cons, bind_eq_ok_iff, List.forall₂_cons_left_iff]
    constructor
    · rintro ⟨b, hb, h⟩
      obtain ⟨bs, hbs, h⟩ := bind_eq_ok_iff.mp h
      exact ⟨b, bs, hb, ih.mp hbs, (Except.ok.inj h).symm⟩
    · rintro ⟨b, bs, hb, hbs, rfl⟩
      exact ⟨b, hb, bind_eq_ok_iff.mpr ⟨bs, ih.mpr hbs, rfl⟩⟩

end Except

/-! ## Lists that are related item by item -/

section Forall₂

variable {α β γ : Type} {R : α → β → Prop} {l : List α} {m : List β}

theorem forall_mem_of_forall₂ {P : α → Prop} (h : Forall₂ R l m) (hP : ∀ {a b}, R a b → P a) :
    ∀ a ∈ l, P a := by
  induction h with
  | nil => simp
  | cons hab _ ih => exact List.forall_mem_cons.mpr ⟨hP hab, ih⟩

theorem exists_mem_of_forall₂ (h : Forall₂ R l m) {a : α} (ha : a ∈ l) : ∃ b ∈ m, R a b := by
  induction h with
  | nil => cases ha
  | cons hab _ ih =>
    rcases List.mem_cons.mp ha with rfl | ha
    · exact ⟨_, .head _, hab⟩
    · obtain ⟨b, hb, hR⟩ := ih ha
      exact ⟨b, .tail _ hb, hR⟩

theorem forall_mem_iff_of_forall₂ {P : α → Prop} {Q : β → Prop} (h : Forall₂ R l m)
    (hPQ : ∀ {a b}, R a b → (P a ↔ Q b)) : (∀ a ∈ l, P a) ↔ ∀ b ∈ m, Q b := by
  induction h with
  | nil => simp
  | cons hab _ ih => rw [List.forall_mem_cons, List.forall_mem_cons, ih, hPQ hab]

theorem map_eq_map_of_forall₂ {f : α → γ} {g : β → γ} (h : Forall₂ R l m)
    (hfg : ∀ {a b}, R a b → g b = f a) : m.map g = l.map f := by
  induction h with
  | nil => rfl
  | cons hab _ ih => rw [List.map_cons, List.map_cons, hfg hab, ih]

/-- If the related item is a function of the item, the second list is the image of the first. -/
theorem eq_map_of_forall₂ {f : α → β} (h : Forall₂ R l m) (hf : ∀ {a b}, R a b → b = f a) :
    m = l.map f := by
  rw [← map_eq_map_of_forall₂ (g := id) h hf, List.map_id]

theorem forall₂_map_map {δ : Type} {S : γ → δ → Prop} {f : α → γ} {g : α → δ}
    (h : ∀ a ∈ l, S (f a) (g a)) : Forall₂ S (l.map f) (l.map g) := by
  rw [List.forall₂_map_left_iff, List.forall₂_map_right_iff, List.forall₂_same]
  exact h

end Forall₂

/-! ## Operators and operands -/

theorem operator_eq_ok_iff {clause : Clause} {c : Condition} {op : Operator} :
    Compile.operator clause c = .ok op ↔ c.meantOperator? = some op := by
  unfold Compile.operator Condition.meantOperator?
  cases c.operator with
  | none => simp
  | some raw =>
    cases h : Operator.ofText? raw <;> simp [h]

theorem pattern_eq_ok_iff {value : Json} {pattern : String} :
    Compile.pattern value = .ok pattern
      ↔ ∃ operand, value.operandText? = some operand ∧ pattern = Like.ofOperand operand := by
  cases value <;> simp [Compile.pattern, Json.operandText?, eq_comm]

theorem bounds_eq_ok_iff {value : Json} {low high : Scalar} :
    Compile.bounds value = .ok (low, high) ↔ IsPair value low high := by
  unfold Compile.bounds IsPair
  constructor
  · intro h
    -- Only an array of two items comes past the first match.
    split at h
    · next l u =>
      split at h
      · next low' high' hl hh =>
        split at h
        · cases h
        · next hnull =>
          obtain ⟨rfl, rfl⟩ := Prod.mk.inj (Except.ok.inj h)
          rw [Bool.or_eq_true, not_or, Scalar.isNull_iff, Scalar.isNull_iff] at hnull
          exact ⟨l, u, rfl, hl, hh, hnull.1, hnull.2⟩
      · cases h
    · cases h
    · cases h
  · rintro ⟨l, u, rfl, hl, hh, hlow, hhigh⟩
    have hnull : (low.isNull || high.isNull) = false := by
      rw [Bool.or_eq_false_iff, ← Bool.not_eq_true, ← Bool.not_eq_true, Scalar.isNull_iff,
        Scalar.isNull_iff]
      exact ⟨hlow, hhigh⟩
    simp [hl, hh, hnull]

theorem comparisonWith_eq_ok_iff {field : String} {op : Operator} {value : Json} {x : Comparison} :
    Compile.comparisonWith field op value = .ok x ↔
      (value = .null ∧ op = .equal ∧ x = .nullCheck ⟨field, true⟩)
      ∨ (value = .null ∧ op = .notEqual ∧ x = .nullCheck ⟨field, false⟩)
      ∨ (op = .like ∧ ∃ operand, value.operandText? = some operand
          ∧ x = .predicate ⟨field, .like, .text (Like.ofOperand operand)⟩)
      ∨ (value ≠ .null ∧ op ≠ .like ∧ ∃ operand, Scalar.ofJson? value = some operand
          ∧ x = .predicate ⟨field, op, operand⟩) := by
  constructor
  · intro h
    unfold Compile.comparisonWith at h
    split at h
    · exact .inl ⟨rfl, rfl, (Except.ok.inj h).symm⟩
    · exact .inr (.inl ⟨rfl, rfl, (Except.ok.inj h).symm⟩)
    · cases h
    · obtain ⟨pattern, hpattern, rfl⟩ := map_eq_ok_iff.mp h
      obtain ⟨operand, hoperand, rfl⟩ := pattern_eq_ok_iff.mp hpattern
      exact .inr (.inr (.inl ⟨rfl, operand, hoperand, rfl⟩))
    -- The match has refused null and `like` before it comes to the last case.
    · next hnull hlike _ _ =>
      split at h
      · next s hs => exact .inr (.inr (.inr ⟨hnull, hlike, s, hs, (Except.ok.inj h).symm⟩))
      · cases h
  · rintro (⟨rfl, rfl, rfl⟩ | ⟨rfl, rfl, rfl⟩ | ⟨rfl, operand, hoperand, rfl⟩ |
      ⟨hnull, hlike, s, hs, rfl⟩)
    · rfl
    · rfl
    · have hpattern := pattern_eq_ok_iff.mpr ⟨operand, hoperand, rfl⟩
      cases value with
      | string _ => simp [Compile.comparisonWith, hpattern, Except.map]
      | number _ => simp [Compile.comparisonWith, hpattern, Except.map]
      | _ => cases hoperand
    · unfold Compile.comparisonWith
      split <;> simp_all

theorem dateOperand_eq_ok_iff {op : Operator} {value : Json} {x : DateOperand} :
    Compile.dateOperand op value = .ok x ↔
      (op = .like ∧ ∃ operand, value.operandText? = some operand
          ∧ x = .pattern (Like.ofOperand operand))
      ∨ (op ≠ .like ∧ ∃ s day, value = .string s ∧ Date.ofText? s = some day ∧ x = .day day) := by
  constructor
  · intro h
    unfold Compile.dateOperand at h
    split at h
    · obtain ⟨pattern, hpattern, rfl⟩ := map_eq_ok_iff.mp h
      obtain ⟨operand, hoperand, rfl⟩ := pattern_eq_ok_iff.mp hpattern
      exact .inl ⟨rfl, operand, hoperand, rfl⟩
    · next s hlike =>
      split at h
      · next day hday => exact .inr ⟨hlike, s, day, rfl, hday, (Except.ok.inj h).symm⟩
      · cases h
    · cases h
  · rintro (⟨rfl, operand, hoperand, rfl⟩ | ⟨hlike, s, day, rfl, hday, rfl⟩)
    · exact map_eq_ok_iff.mpr ⟨_, pattern_eq_ok_iff.mpr ⟨operand, hoperand, rfl⟩, rfl⟩
    · unfold Compile.dateOperand
      split <;> simp_all

/-! ## Single entries -/

namespace Compile

variable {allowed : FieldSet}

theorem checkField_eq_ok_iff {clause : Clause} {field g : String} :
    checkField allowed clause field = .ok g ↔ field ∈ allowed ∧ g = field := by
  unfold checkField
  split
  · next h => simp [FieldSet.contains_iff.mp h, eq_comm]
  · next h => simp [mt FieldSet.contains_iff.mpr h]

/-- What the bounds of a range clause become, whatever the allow-list. -/
def boundedOf (b : String × Json) : Bounded :=
  match bounds b.2 with
  | .ok (low, high) => .range ⟨b.1, low, high⟩
  | .error fault => .skipped ⟨b.1, fault⟩

/-- An entry is compiled in three steps: its column, its operator and its value. -/
theorem comparison_eq_ok_iff {c : Condition} {x : Comparison} :
    comparison allowed c = .ok x ↔ c.field ∈ allowed ∧ ∃ op, operator .compare c = .ok op
      ∧ comparisonWith c.field op c.value = .ok x := by
  unfold comparison
  rw [bind_eq_ok_iff]
  constructor
  · rintro ⟨field, hfield, h⟩
    obtain ⟨hmem, rfl⟩ := checkField_eq_ok_iff.mp hfield
    obtain ⟨op, hop, h⟩ := bind_eq_ok_iff.mp h
    exact ⟨hmem, op, hop, mapError_eq_ok_iff.mp h⟩
  · rintro ⟨hmem, op, hop, h⟩
    exact ⟨c.field, checkField_eq_ok_iff.mpr ⟨hmem, rfl⟩,
      bind_eq_ok_iff.mpr ⟨op, hop, mapError_eq_ok_iff.mpr h⟩⟩

/-- An entry on calendar days goes through the same three steps. -/
theorem datePredicate_eq_ok_iff {c : Condition} {x : DatePredicate} :
    datePredicate allowed c = .ok x ↔ c.field ∈ allowed ∧ ∃ op value, operator .date c = .ok op
      ∧ dateOperand op c.value = .ok value ∧ x = ⟨c.field, op, value⟩ := by
  unfold datePredicate
  rw [bind_eq_ok_iff]
  constructor
  · rintro ⟨field, hfield, h⟩
    obtain ⟨hmem, rfl⟩ := checkField_eq_ok_iff.mp hfield
    obtain ⟨op, hop, h⟩ := bind_eq_ok_iff.mp h
    obtain ⟨value, hvalue, h⟩ := bind_eq_ok_iff.mp h
    exact ⟨hmem, op, value, hop, mapError_eq_ok_iff.mp hvalue, (Except.ok.inj h).symm⟩
  · rintro ⟨hmem, op, value, hop, hvalue, rfl⟩
    exact ⟨c.field, checkField_eq_ok_iff.mpr ⟨hmem, rfl⟩, bind_eq_ok_iff.mpr
      ⟨op, hop, bind_eq_ok_iff.mpr ⟨value, mapError_eq_ok_iff.mpr hvalue, rfl⟩⟩⟩

theorem nullCheck_eq_ok_iff {clause : Clause} {isNull : Bool} {field : String} {x : NullCheck} :
    nullCheck allowed clause isNull field = .ok x ↔ field ∈ allowed ∧ x = ⟨field, isNull⟩ := by
  unfold nullCheck
  rw [map_eq_ok_iff]
  constructor
  · rintro ⟨g, hg, rfl⟩
    obtain ⟨hmem, rfl⟩ := checkField_eq_ok_iff.mp hg
    exact ⟨hmem, rfl⟩
  · rintro ⟨hmem, rfl⟩
    exact ⟨field, checkField_eq_ok_iff.mpr ⟨hmem, rfl⟩, rfl⟩

/-- Bounds never fail to compile: what is no pair is skipped. -/
theorem bounded_eq_ok_iff {b : String × Json} {x : Bounded} :
    bounded allowed b = .ok x ↔ b.1 ∈ allowed ∧ x = boundedOf b := by
  unfold bounded
  rw [bind_eq_ok_iff]
  constructor
  · rintro ⟨field, hfield, h⟩
    obtain ⟨hmem, rfl⟩ := checkField_eq_ok_iff.mp hfield
    refine ⟨hmem, ?_⟩
    unfold boundedOf
    cases hb : bounds b.2 <;> simp only [hb] at h ⊢ <;> exact (Except.ok.inj h).symm
  · rintro ⟨hmem, rfl⟩
    refine ⟨b.1, checkField_eq_ok_iff.mpr ⟨hmem, rfl⟩, ?_⟩
    unfold boundedOf
    cases bounds b.2 <;> rfl

theorem sortKey_eq_ok_iff {e : OrderEntry} {x : SortKey} :
    sortKey allowed e = .ok x ↔ e.field ∈ allowed ∧ x = ⟨e.field, .ofOrder e.order⟩ := by
  unfold sortKey
  rw [map_eq_ok_iff]
  constructor
  · rintro ⟨g, hg, rfl⟩
    obtain ⟨hmem, rfl⟩ := checkField_eq_ok_iff.mp hg
    exact ⟨hmem, rfl⟩
  · rintro ⟨hmem, rfl⟩
    exact ⟨e.field, checkField_eq_ok_iff.mpr ⟨hmem, rfl⟩, rfl⟩

end Compile

/-! ## Whole documents -/

/-- What the entries of a document became, clause by clause. -/
structure CompiledEntries where
  comparisons : List Comparison
  nulls : List NullCheck
  notNulls : List NullCheck
  dates : List DatePredicate
  bounds : List Bounded
  sort : List SortKey

def CompiledEntries.plan (x : CompiledEntries) : Plan where
  predicates := x.comparisons.filterMap Comparison.predicate?
  datePredicates := x.dates
  nullChecks := x.comparisons.filterMap Comparison.nullCheck? ++ (x.nulls ++ x.notNulls)
  ranges := x.bounds.filterMap Bounded.range?
  sort := x.sort
  skipped := x.bounds.filterMap Bounded.skipped?

/-- Every entry of the document compiles, and these are the results. -/
structure CompilesTo (allowed : FieldSet) (d : Document) (x : CompiledEntries) : Prop where
  comparisons : Forall₂ (fun c y => Compile.comparison allowed c = .ok y) d.conditions x.comparisons
  nulls : Forall₂ (fun f y => Compile.nullCheck allowed .isNull true f = .ok y) d.nulls x.nulls
  notNulls : Forall₂ (fun f y => Compile.nullCheck allowed .notNull false f = .ok y)
    d.notNulls x.notNulls
  dates : Forall₂ (fun c y => Compile.datePredicate allowed c = .ok y) d.dates x.dates
  bounds : Forall₂ (fun b y => Compile.bounded allowed b = .ok y) d.bounds x.bounds
  sort : Forall₂ (fun o y => Compile.sortKey allowed o = .ok y) d.order x.sort

namespace CompilesTo

variable {allowed : FieldSet} {d : Document} {x : CompiledEntries}

theorem nulls_eq (h : CompilesTo allowed d x) : x.nulls = d.nulls.map (⟨·, true⟩) :=
  eq_map_of_forall₂ h.nulls fun hab => (Compile.nullCheck_eq_ok_iff.mp hab).2

theorem notNulls_eq (h : CompilesTo allowed d x) : x.notNulls = d.notNulls.map (⟨·, false⟩) :=
  eq_map_of_forall₂ h.notNulls fun hab => (Compile.nullCheck_eq_ok_iff.mp hab).2

theorem bounds_eq (h : CompilesTo allowed d x) : x.bounds = d.bounds.map Compile.boundedOf :=
  eq_map_of_forall₂ h.bounds fun hab => (Compile.bounded_eq_ok_iff.mp hab).2

theorem sort_eq (h : CompilesTo allowed d x) :
    x.sort = d.order.map fun o => ⟨o.field, .ofOrder o.order⟩ :=
  eq_map_of_forall₂ h.sort fun hab => (Compile.sortKey_eq_ok_iff.mp hab).2

end CompilesTo

/-- A document compiles to the plan of what its entries compile to, clause by clause. -/
theorem compile_eq_ok_iff {allowed : FieldSet} {d : Document} {p : Plan} :
    d.compile allowed = .ok p ↔ ∃ x, CompilesTo allowed d x ∧ p = x.plan := by
  unfold Document.compile Document.compileTests
  constructor
  · intro h
    obtain ⟨tests, htests, h⟩ := bind_eq_ok_iff.mp h
    obtain ⟨comparisons, hcomparisons, htests⟩ := bind_eq_ok_iff.mp htests
    obtain ⟨nulls, hnulls, htests⟩ := bind_eq_ok_iff.mp htests
    obtain ⟨notNulls, hnotNulls, htests⟩ := bind_eq_ok_iff.mp htests
    obtain ⟨dates, hdates, htests⟩ := bind_eq_ok_iff.mp htests
    obtain ⟨bounds, hbounds, h⟩ := bind_eq_ok_iff.mp h
    obtain ⟨sort, hsort, h⟩ := bind_eq_ok_iff.mp h
    obtain rfl := Except.ok.inj htests
    exact ⟨⟨comparisons, nulls, notNulls, dates, bounds, sort⟩,
      ⟨mapM_eq_ok_iff.mp hcomparisons, mapM_eq_ok_iff.mp hnulls, mapM_eq_ok_iff.mp hnotNulls,
        mapM_eq_ok_iff.mp hdates, mapM_eq_ok_iff.mp hbounds, mapM_eq_ok_iff.mp hsort⟩,
      (Except.ok.inj h).symm⟩
  · rintro ⟨x, hx, rfl⟩
    -- Every traversal is known to succeed, so what is left computes.
    rw [mapM_eq_ok_iff.mpr hx.comparisons, mapM_eq_ok_iff.mpr hx.nulls,
      mapM_eq_ok_iff.mpr hx.notNulls, mapM_eq_ok_iff.mpr hx.dates, mapM_eq_ok_iff.mpr hx.bounds,
      mapM_eq_ok_iff.mpr hx.sort]
    rfl

end Sift

import Sift.Proofs.Compile.Transcription
import Sift.Proofs.Compile.WellFormed
import Sift.Proofs.Search.Pagination

/-!
# Documents compose

Two documents are put together clause by clause. What they ask for is then asked for together, with
one exception: a row need only lie within one range of either document. So the rows of the whole are
those that pass the tests of both and the ranges of both taken as one list, which says nothing if it
is empty.

That one exception shows in what an edit of a document does. More tests leave fewer rows, but more
bounds leave more, unless there was none before; the order of entries and the bounds that are no
pairs make no difference.

Main statement: `selects_append_iff`.
-/

namespace Sift

open List (Forall₂)

/-! ## Documents put together and edited -/

namespace Document

/-- The entries of both documents, clause by clause. -/
instance : Append Document where
  append a b :=
    { conditions := a.conditions ++ b.conditions
      dates := a.dates ++ b.dates
      nulls := a.nulls ++ b.nulls
      notNulls := a.notNulls ++ b.notNulls
      between := a.between ++ b.between
      order := a.order ++ b.order }

def withoutRanges (d : Document) : Document := { d with between := [] }

/-- Every entry of the document is one of the other's. -/
structure Within (d d' : Document) : Prop where
  conditions : d.conditions ⊆ d'.conditions
  dates : d.dates ⊆ d'.dates
  nulls : d.nulls ⊆ d'.nulls
  notNulls : d.notNulls ⊆ d'.notNulls
  bounds : d.bounds ⊆ d'.bounds
  order : d.order ⊆ d'.order

/-- The other document has all entries of this one and perhaps more, but no other ranges. -/
structure AddsTests (d d' : Document) : Prop where
  within : d.Within d'
  between : d'.between = d.between

/-- The other document has all entries of this one and perhaps more bounds, but nothing else. -/
structure AddsBounds (d d' : Document) : Prop where
  within : d.Within d'
  withoutRanges : d'.withoutRanges.Within d

/-- The documents differ in nothing but the bounds that are no pairs. -/
structure SameButMalformed (d d' : Document) : Prop where
  conditions : d'.conditions = d.conditions
  dates : d'.dates = d.dates
  nulls : d'.nulls = d.nulls
  notNulls : d'.notNulls = d.notNulls
  bounds : d'.bounds.filter (·.2.BoundsRange) = d.bounds.filter (·.2.BoundsRange)
  order : d'.order = d.order

/-- The documents have the same entries in the same clauses, the sort entries in the same order and
the others in any. -/
structure Rearranges (d d' : Document) : Prop where
  conditions : d'.conditions.Perm d.conditions
  dates : d'.dates.Perm d.dates
  nulls : d'.nulls.Perm d.nulls
  notNulls : d'.notNulls.Perm d.notNulls
  bounds : d'.bounds.Perm d.bounds
  order : d'.order = d.order

variable {d d' : Document}

/-- Rearranging entries leaves out none. -/
theorem Rearranges.within (h : d.Rearranges d') : d.Within d' :=
  ⟨h.conditions.symm.subset, h.dates.symm.subset, h.nulls.symm.subset, h.notNulls.symm.subset,
    h.bounds.symm.subset, h.order ▸ List.Subset.refl _⟩

theorem Rearranges.symm (h : d.Rearranges d') : d'.Rearranges d :=
  ⟨h.conditions.symm, h.dates.symm, h.nulls.symm, h.notNulls.symm, h.bounds.symm, h.order.symm⟩

theorem within_withoutRanges (d : Document) : d.withoutRanges.Within d :=
  ⟨List.Subset.refl _, List.Subset.refl _, List.Subset.refl _, List.Subset.refl _,
    List.nil_subset _, List.Subset.refl _⟩

theorem bounds_append (a b : Document) : (a ++ b).bounds = a.bounds ++ b.bounds :=
  List.flatten_append

def Has (d : Document) : Entry → Prop
  | .compare c => c ∈ d.conditions
  | .date c => c ∈ d.dates
  | .isNull field => field ∈ d.nulls
  | .notNull field => field ∈ d.notNulls
  | .between b => b ∈ d.bounds
  | .order o => o ∈ d.order

/-- The order in which entries are checked goes through all of them. -/
theorem mem_inOrder_iff {x : Entry} : x ∈ d.inOrder ↔ d.Has x := by
  cases x <;> simp [inOrder, Has, bounds]

/-- A document put together has the entries of its two parts. -/
theorem has_append_iff {a b : Document} {x : Entry} : (a ++ b).Has x ↔ a.Has x ∨ b.Has x := by
  cases x with
  | between b' =>
    show b' ∈ (a ++ b).bounds ↔ _
    rw [bounds_append]
    exact List.mem_append
  | _ => exact List.mem_append

theorem Within.has (h : d.Within d') {x : Entry} (hx : d.Has x) : d'.Has x := by
  cases x with
  | compare c => exact h.conditions hx
  | date c => exact h.dates hx
  | isNull field => exact h.nulls hx
  | notNull field => exact h.notNulls hx
  | between b => exact h.bounds hx
  | order o => exact h.order hx

end Document

/-! ## Which of them compile -/

variable {allowed : FieldSet} {d d' : Document} {p p' : Plan}

/-- A document compiles when each of its entries does. -/
theorem exists_compile_iff :
    (∃ p, d.compile allowed = .ok p) ↔ ∀ x, d.Has x → x.Valid allowed := by
  rw [← errorOf?_eq_none_iff, errorOf?_compile, List.findSome?_eq_none_iff]
  simp only [Entry.fault?_eq_none_iff, Document.mem_inOrder_iff]

/-- Two documents compile together exactly when each compiles alone. -/
theorem exists_compile_append_iff {a b : Document} :
    (∃ p, (a ++ b).compile allowed = .ok p)
      ↔ (∃ p, a.compile allowed = .ok p) ∧ ∃ p, b.compile allowed = .ok p := by
  simp only [exists_compile_iff, Document.has_append_iff]
  constructor
  · intro h
    exact ⟨fun x hx => h x (.inl hx), fun x hx => h x (.inr hx)⟩
  · rintro ⟨ha, hb⟩ x (hx | hx)
    · exact ha x hx
    · exact hb x hx

/-- A document compiles if another does that has all its entries. -/
theorem exists_compile_of_within (h : d.Within d') (hd' : ∃ p, d'.compile allowed = .ok p) :
    ∃ p, d.compile allowed = .ok p := by
  rw [exists_compile_iff] at hd' ⊢
  intro x hx
  exact hd' x (h.has hx)

/-! ## Which rows they admit -/

namespace Document

variable {key : String} {row : Json}

def Contains (b : String × Json) (row : Json) : Prop :=
  ∃ low high, IsPair b.2 low high ∧ LiesBetween row b.1 low high

/-- The ranges let every row pass if no bound is a pair; otherwise one pair must contain the row. -/
theorem admitsBetween_iff {between : List Fields} :
    AdmitsBetween between row ↔ (∀ b ∈ between.flatten, ¬ b.2.BoundsRange)
      ∨ ∃ b ∈ between.flatten, Contains b row := by
  apply or_congr
  · constructor
    · rintro h b hb ⟨low, high, hpair⟩
      obtain ⟨fields, hfields, hb⟩ := List.mem_flatten.mp hb
      exact h fields hfields b hb low high hpair
    · intro h fields hfields b hb low high hpair
      exact h b (List.mem_flatten_of_mem hfields hb) ⟨low, high, hpair⟩
  · constructor
    · rintro ⟨fields, hfields, b, hb, hcontains⟩
      exact ⟨b, List.mem_flatten_of_mem hfields hb, hcontains⟩
    · rintro ⟨b, hb, hcontains⟩
      obtain ⟨fields, hfields, hb⟩ := List.mem_flatten.mp hb
      exact ⟨fields, hfields, b, hb, hcontains⟩

/-- A row is admitted by the tests of a document and by its ranges. -/
theorem admits_withoutRanges_iff : d.Admits key row
    ↔ d.withoutRanges.Admits key row ∧ AdmitsBetween d.between row := by
  have hnone : AdmitsBetween [] row := admitsBetween_iff.mpr (.inl (by simp))
  constructor
  · rintro ⟨hkeyed, hconditions, hdates, hnulls, hnotNulls, hbetween⟩
    exact ⟨⟨hkeyed, hconditions, hdates, hnulls, hnotNulls, hnone⟩, hbetween⟩
  · rintro ⟨⟨hkeyed, hconditions, hdates, hnulls, hnotNulls, -⟩, hbetween⟩
    exact ⟨hkeyed, hconditions, hdates, hnulls, hnotNulls, hbetween⟩

/-- Without the ranges, being admitted is a conjunction over the entries. -/
theorem admits_append_withoutRanges_iff {a b : Document} :
    (a ++ b).withoutRanges.Admits key row
      ↔ a.withoutRanges.Admits key row ∧ b.withoutRanges.Admits key row := by
  constructor
  · rintro ⟨hkeyed, hconditions, hdates, hnulls, hnotNulls, hbetween⟩
    have hconditions := List.forall_mem_append.mp hconditions
    have hdates := List.forall_mem_append.mp hdates
    have hnulls := List.forall_mem_append.mp hnulls
    have hnotNulls := List.forall_mem_append.mp hnotNulls
    exact ⟨⟨hkeyed, hconditions.1, hdates.1, hnulls.1, hnotNulls.1, hbetween⟩,
      ⟨hkeyed, hconditions.2, hdates.2, hnulls.2, hnotNulls.2, hbetween⟩⟩
  · rintro ⟨ha, hb⟩
    exact ⟨ha.keyed, List.forall_mem_append.mpr ⟨ha.conditions, hb.conditions⟩,
      List.forall_mem_append.mpr ⟨ha.dates, hb.dates⟩,
      List.forall_mem_append.mpr ⟨ha.nulls, hb.nulls⟩,
      List.forall_mem_append.mpr ⟨ha.notNulls, hb.notNulls⟩, ha.between⟩

/-- A document with more tests admits fewer rows, ranges aside. -/
theorem Within.admits_withoutRanges (h : d.withoutRanges.Within d')
    (hd' : d'.withoutRanges.Admits key row) : d.withoutRanges.Admits key row where
  keyed := hd'.keyed
  conditions c hc := hd'.conditions c (h.conditions hc)
  dates c hc := hd'.dates c (h.dates hc)
  nulls f hf := hd'.nulls f (h.nulls hf)
  notNulls f hf := hd'.notNulls f (h.notNulls hf)
  between := admitsBetween_iff.mpr (.inl (by simp [withoutRanges]))

theorem Within.withoutRanges (h : d.Within d') : d.withoutRanges.Within d' :=
  ⟨h.conditions, h.dates, h.nulls, h.notNulls, List.nil_subset _, h.order⟩

/-- More tests never let in a row that was kept out. -/
theorem AddsTests.admits (h : d.AddsTests d') (hd' : d'.Admits key row) : d.Admits key row := by
  rw [admits_withoutRanges_iff] at hd' ⊢
  exact ⟨h.within.withoutRanges.admits_withoutRanges hd'.1, h.between ▸ hd'.2⟩

/-- More bounds never keep out a row, provided that there was a bound before. -/
theorem AddsBounds.admits (h : d.AddsBounds d') (hrange : ∃ b ∈ d.bounds, b.2.BoundsRange)
    (hd : d.Admits key row) : d'.Admits key row := by
  rw [admits_withoutRanges_iff] at hd ⊢
  refine ⟨h.withoutRanges.admits_withoutRanges hd.1, ?_⟩
  -- There is a range, so the row lies within one, and that one is still there.
  rcases admitsBetween_iff.mp hd.2 with hnone | ⟨b, hb, hcontains⟩
  · obtain ⟨b, hb, hpair⟩ := hrange
    exact absurd hpair (hnone b hb)
  · exact admitsBetween_iff.mpr (.inr ⟨b, h.within.bounds hb, hcontains⟩)

/-- The order of the entries does not matter to a row. -/
theorem Rearranges.admits (h : d.Rearranges d') (hd : d.Admits key row) : d'.Admits key row := by
  rw [admits_withoutRanges_iff] at hd ⊢
  refine ⟨h.symm.within.withoutRanges.admits_withoutRanges hd.1, ?_⟩
  rcases admitsBetween_iff.mp hd.2 with hnone | ⟨b, hb, hcontains⟩
  · exact admitsBetween_iff.mpr (.inl fun b hb => hnone b (h.symm.within.bounds hb))
  · exact admitsBetween_iff.mpr (.inr ⟨b, h.within.bounds hb, hcontains⟩)

end Document

/-! ## Which patterns have to be built -/

def Condition.pattern? (c : Condition) : Option String :=
  match c.meantOperator? with
  | some .like => c.value.operandText?.map Like.ofOperand
  | _ => none

/-- Only `like` makes a pattern, the one its operand stands for. -/
theorem pattern?_of_means {c : Condition} {op : Operator} (h : c.Means op) :
    c.pattern? = if op = .like then c.value.operandText?.map Like.ofOperand else none := by
  unfold Condition.pattern?
  rw [meantOperator?_eq_some_iff.mpr h]
  cases op <;> rfl

theorem Predicate.Transcribes.pattern?_eq {q : Predicate} {c : Condition} (h : q.Transcribes c) :
    q.pattern? = c.pattern? := by
  rw [pattern?_of_means h.operator]
  obtain ⟨field, op, value⟩ := q
  have hvalue := h.value
  cases op with
  | like =>
    obtain ⟨operand, pattern, hoperand, hwraps, rfl⟩ := hvalue
    simp [pattern?, hoperand, wraps_iff.mp hwraps]
  | _ => rfl

theorem DatePredicate.Transcribes.pattern?_eq {q : DatePredicate} {c : Condition}
    (h : q.Transcribes c) : q.pattern? = c.pattern? := by
  rw [pattern?_of_means h.operator]
  obtain ⟨field, op, value⟩ := q
  have hvalue := h.value
  cases op with
  | like =>
    obtain ⟨operand, pattern, hoperand, hwraps, rfl⟩ := hvalue
    simp [pattern?, hoperand, wraps_iff.mp hwraps]
  | _ =>
    obtain ⟨s, day, -, -, rfl⟩ := hvalue
    rfl

theorem filterMap_eq_of_forall₂ {α β γ : Type} {R : α → β → Prop} {l : List α} {m : List β}
    {f : α → Option γ} {g : β → Option γ} (h : Forall₂ R l m)
    (hfg : ∀ {a b}, R a b → g b = f a) : m.filterMap g = l.filterMap f := by
  have hmap := congrArg (List.filterMap id) (map_eq_map_of_forall₂ h hfg)
  simpa only [List.filterMap_map, Function.id_comp] using hmap

/-- The patterns of a plan are those of the entries of its document. -/
theorem Plan.Transcribes.patterns_eq (h : p.Transcribes d) :
    p.patterns = d.conditions.filterMap Condition.pattern?
      ++ d.dates.filterMap Condition.pattern? := by
  -- A comparison with null is left out of the predicates, but it has no pattern anyway.
  have hnull : ∀ c : Condition, (if (!c.value.isNull) = true then c.pattern? else none)
      = c.pattern? := by
    intro c
    split
    · rfl
    · next hc =>
      have hvalue : c.value = .null := Json.isNull_iff.mp (by simpa using hc)
      unfold Condition.pattern?
      rw [hvalue]
      split <;> rfl
  rw [Plan.patterns_eq, filterMap_eq_of_forall₂ h.predicates fun hq => hq.pattern?_eq,
    filterMap_eq_of_forall₂ h.datePredicates fun hq => hq.pattern?_eq, List.filterMap_filter]
  simp only [hnull]

/-! ## Searches by documents with the same entries -/

theorem Store.matching_of_built {s : Store} {q : Query} (hq : q.plan.largePattern? = none) :
    s.matching q = s.access.map fun _ => (s.rows q.entity.table).filter q.selects := by
  unfold Store.matching
  rw [hq]
  cases s.access <;> rfl

/-- A plan whose patterns can all be built can be told from another such plan by nothing but its
sort and the rows that it selects. -/
theorem Store.execute_eq_of_selects {s : Store} {e : Entity} (hsort : p'.sort = p.sort)
    (hselects : ∀ row, (Query.resolve e p').selects row = (Query.resolve e p).selects row)
    (hp : p.largePattern? = none) (hp' : p'.largePattern? = none) (r : PageRequest) :
    s.backend.execute p' e r = s.backend.execute p e r := by
  have hmatching : s.matching (.resolve e p') = s.matching (.resolve e p) := by
    rw [matching_of_built hp', matching_of_built hp, funext hselects]
    rfl
  have hresolved : (Query.resolve e p').sort = (Query.resolve e p).sort := by
    unfold Query.resolve Query.requestedSort
    rw [hsort]
  -- An execution asks nothing of a plan but how many rows it selects and which, in their order.
  have hcount : s.backend.count (.resolve e p') = s.backend.count (.resolve e p) :=
    congrArg (Except.map List.length) hmatching
  have hfetch : ∀ w, s.backend.fetch (.resolve e p') w = s.backend.fetch (.resolve e p) w := by
    intro w
    show (s.matching (.resolve e p')).map _ = (s.matching (.resolve e p)).map _
    rw [hmatching, hresolved]
  simp only [Backend.execute, hcount, hfetch]

/-- Rearranging entries brings in no pattern that cannot be built. -/
theorem largePattern?_eq_none_of_rearranges (hd : d.Rearranges d') (h : p.Transcribes d)
    (h' : p'.Transcribes d') (hp : p.largePattern? = none) : p'.largePattern? = none := by
  have hpatterns : p'.patterns.Perm p.patterns := by
    rw [h.patterns_eq, h'.patterns_eq]
    exact (hd.conditions.filterMap _).append (hd.dates.filterMap _)
  unfold Plan.largePattern? at hp ⊢
  rw [List.find?_eq_none] at hp ⊢
  intro pattern hpattern
  exact hp pattern (hpatterns.subset hpattern)

/-! ## Compiled documents -/

/-- A compiled plan transcribes its document, whatever the allow-list. -/
theorem transcribes_of_compile (h : d.compile allowed = .ok p) : p.Transcribes d := by
  obtain ⟨x, hx, rfl⟩ := compile_eq_ok_iff.mp h
  exact plan_transcribes_iff.mpr ⟨x, (compilesTo_iff_transcribes.mp hx).2, rfl⟩

theorem sort_of_compile (h : d.compile allowed = .ok p) :
    p.sort = d.order.map fun o => ⟨o.field, .ofOrder o.order⟩ := by
  obtain ⟨x, hx, rfl⟩ := compile_eq_ok_iff.mp h
  exact hx.sort_eq

/-- The compiler goes through the bounds of all objects as one list. -/
theorem compile_congr (hconditions : d'.conditions = d.conditions) (hdates : d'.dates = d.dates)
    (hnulls : d'.nulls = d.nulls) (hnotNulls : d'.notNulls = d.notNulls)
    (hbounds : d'.bounds = d.bounds) (horder : d'.order = d.order) :
    d'.compile allowed = d.compile allowed := by
  unfold Document.compile Document.compileTests
  rw [hconditions, hdates, hnulls, hnotNulls, hbounds, horder]

variable {e : Entity}

/-- The rows that a compiled plan selects are those that its document admits. -/
theorem selects_eq_true_iff (h : e.compile d = .ok p) (row : Json) :
    (Query.resolve e p).selects row = true ↔ d.Admits e.primaryKey row := by
  obtain ⟨x, hx, rfl⟩ := compile_eq_ok_iff.mp h
  exact selects_plan_iff hx row

/-- The order of entries in any clause but the sort makes no difference. -/
theorem Document.Rearranges.exists_compile (h : d.Rearranges d') (hp : e.compile d = .ok p) :
    ∃ p', e.compile d' = .ok p' ∧ p'.sort = p.sort
      ∧ (p.largePattern? = none → p'.largePattern? = none)
      ∧ ∀ row, (Query.resolve e p').selects row = (Query.resolve e p).selects row := by
  obtain ⟨p', hp'⟩ := exists_compile_of_within h.symm.within ⟨p, hp⟩
  refine ⟨p', hp', ?_, ?_, ?_⟩
  · rw [sort_of_compile hp, sort_of_compile hp', h.order]
  · exact largePattern?_eq_none_of_rearranges h (transcribes_of_compile hp)
      (transcribes_of_compile hp')
  · intro row
    rw [Bool.eq_iff_iff, selects_eq_true_iff hp', selects_eq_true_iff hp]
    exact ⟨h.symm.admits, h.admits⟩

theorem Document.bounds_withoutMalformed_eq (d : Document) :
    d.withoutMalformed.bounds = d.bounds.filter (·.2.BoundsRange) := by
  rw [bounds_withoutMalformed]
  congr 1
  funext b
  rw [Bool.eq_iff_iff, decide_eq_true_eq, Json.boundsRange_iff]
  cases Compile.bounds b.2 <;> simp [Except.toBool]

/-- Malformed bounds are listed in the plan and change nothing else of it. -/
theorem Document.SameButMalformed.plan_eq (h : d.SameButMalformed d') (hp : e.compile d = .ok p)
    (hp' : e.compile d' = .ok p') : p' = { p with skipped := p'.skipped } := by
  have hbounds : d'.withoutMalformed.bounds = d.withoutMalformed.bounds := by
    rw [bounds_withoutMalformed_eq, bounds_withoutMalformed_eq, h.bounds]
  have hsame : e.compile d'.withoutMalformed = e.compile d.withoutMalformed :=
    compile_congr h.conditions h.dates h.nulls h.notNulls hbounds h.order
  rw [compile_withoutMalformed hp, compile_withoutMalformed hp'] at hsame
  -- Without what they left out the plans are one, so they have all the rest in common.
  obtain ⟨predicates, dates, checks, ranges, sort, skipped⟩ := p
  obtain ⟨predicates', dates', checks', ranges', sort', skipped'⟩ := p'
  cases hsame
  rfl

/-- Malformed bounds are no reason to reject a document, as long as their columns are allowed. -/
theorem Document.SameButMalformed.exists_compile (h : d.SameButMalformed d')
    (hcolumns : ∀ bound ∈ d'.bounds, bound.1 ∈ allowed) (hd : ∃ p, d.compile allowed = .ok p) :
    ∃ p', d'.compile allowed = .ok p' := by
  have hwithin : d'.withoutRanges.Within d :=
    ⟨(h.conditions ▸ List.Subset.refl d'.conditions), (h.dates ▸ List.Subset.refl d'.dates),
      (h.nulls ▸ List.Subset.refl d'.nulls), (h.notNulls ▸ List.Subset.refl d'.notNulls),
      List.nil_subset _, (h.order ▸ List.Subset.refl d'.order)⟩
  rw [exists_compile_iff] at hd ⊢
  intro x hx
  cases x with
  | between b => exact (Entry.valid_iff_of_condition?_eq_none rfl).mpr (hcolumns b hx)
  | _ => exact hd _ (hwithin.has hx)

/-- **Documents compose.** Two documents put together compile exactly if both do, and the rows of
the whole are those that pass the tests of both and, if any of their bounds is a pair, lie within
one of these.

So a document with more tests has fewer rows; one with more bounds has more rows, if it had a range
before; malformed bounds are listed in the plan and change no answer; and neither does the order of
the entries in any clause but the sort. -/
theorem selects_append_iff (e : Entity) :
    (∀ a b : Document, (∃ p, e.compile (a ++ b) = .ok p)
        ↔ (∃ p, e.compile a = .ok p) ∧ ∃ p, e.compile b = .ok p)
      ∧ (∀ (a b : Document) p, e.compile (a ++ b) = .ok p → ∃ s t,
          e.compile a.withoutRanges = .ok s ∧ e.compile b.withoutRanges = .ok t
          ∧ ∀ row, (Query.resolve e p).selects row = true
            ↔ (Query.resolve e s).selects row = true ∧ (Query.resolve e t).selects row = true
              ∧ ((∀ bound ∈ a.bounds ++ b.bounds, ¬ bound.2.BoundsRange)
                ∨ ∃ bound ∈ a.bounds ++ b.bounds, Document.Contains bound row))
      ∧ (∀ (d d' : Document) p', d.AddsTests d' → e.compile d' = .ok p' → ∃ p,
          e.compile d = .ok p ∧ ∀ row, (Query.resolve e p').selects row = true →
            (Query.resolve e p).selects row = true)
      ∧ (∀ (d d' : Document) p', d.AddsBounds d' → (∃ bound ∈ d.bounds, bound.2.BoundsRange) →
          e.compile d' = .ok p' → ∃ p, e.compile d = .ok p ∧ ∀ row,
            (Query.resolve e p).selects row = true → (Query.resolve e p').selects row = true)
      ∧ (∀ (d d' : Document) p, d.SameButMalformed d' →
          (∀ bound ∈ d'.bounds, bound.1 ∈ e.queryable) → e.compile d = .ok p → ∃ p',
            e.compile d' = .ok p' ∧ p' = { p with skipped := p'.skipped }
            ∧ ∀ (s : Store) r, s.backend.execute p' e r = s.backend.execute p e r)
      ∧ ∀ (d d' : Document) p, d.Rearranges d' → e.compile d = .ok p → ∃ p',
          e.compile d' = .ok p'
          ∧ (∀ row, (Query.resolve e p').selects row = (Query.resolve e p).selects row)
          ∧ (p.largePattern? = none → ∀ (s : Store) r,
            s.backend.execute p' e r = s.backend.execute p e r) := by
  refine ⟨fun a b => exists_compile_append_iff, ?_, ?_, ?_, ?_, ?_⟩
  · intro a b p hp
    -- Tests are passed one document at a time, and the ranges of both are left as one list.
    obtain ⟨⟨s, hs⟩, t, ht⟩ := exists_compile_append_iff.mp ⟨p, hp⟩
    obtain ⟨s', hs'⟩ := exists_compile_of_within a.within_withoutRanges ⟨s, hs⟩
    obtain ⟨t', ht'⟩ := exists_compile_of_within b.within_withoutRanges ⟨t, ht⟩
    refine ⟨s', t', hs', ht', ?_⟩
    intro row
    rw [selects_eq_true_iff hp, selects_eq_true_iff hs', selects_eq_true_iff ht',
      Document.admits_withoutRanges_iff, Document.admits_append_withoutRanges_iff, and_assoc,
      ← Document.bounds_append]
    exact and_congr_right fun _ => and_congr_right fun _ => Document.admitsBetween_iff
  · intro d d' p' hadds hp'
    obtain ⟨p, hp⟩ := exists_compile_of_within hadds.within ⟨p', hp'⟩
    refine ⟨p, hp, ?_⟩
    intro row hrow
    rw [selects_eq_true_iff hp'] at hrow
    rw [selects_eq_true_iff hp]
    exact hadds.admits hrow
  · intro d d' p' hadds hrange hp'
    obtain ⟨p, hp⟩ := exists_compile_of_within hadds.within ⟨p', hp'⟩
    refine ⟨p, hp, ?_⟩
    intro row hrow
    rw [selects_eq_true_iff hp] at hrow
    rw [selects_eq_true_iff hp']
    exact hadds.admits hrange hrow
  · intro d d' p hsame hcolumns hp
    -- The plans differ in the remarks about skipped ranges, which no execution looks at.
    obtain ⟨p', hp'⟩ := hsame.exists_compile hcolumns ⟨p, hp⟩
    have hplan := hsame.plan_eq hp hp'
    refine ⟨p', hp', hplan, ?_⟩
    intro s r
    rw [hplan]
    rfl
  · intro d d' p hrearranges hp
    obtain ⟨p', hp'⟩ := exists_compile_of_within hrearranges.symm.within ⟨p, hp⟩
    have hselects : ∀ row, (Query.resolve e p').selects row = (Query.resolve e p).selects row := by
      intro row
      rw [Bool.eq_iff_iff, selects_eq_true_iff hp', selects_eq_true_iff hp]
      exact ⟨hrearranges.symm.admits, hrearranges.admits⟩
    refine ⟨p', hp', hselects, ?_⟩
    intro hbuilt s r
    -- The same patterns are there in another order, so which of them is too large may change, but
    -- not whether one is.
    have hbuilt' := largePattern?_eq_none_of_rearranges hrearranges (transcribes_of_compile hp)
      (transcribes_of_compile hp') hbuilt
    apply Store.execute_eq_of_selects _ hselects hbuilt hbuilt'
    rw [sort_of_compile hp, sort_of_compile hp', hrearranges.order]

/-! ### The young and the retired -/

namespace Sample

def young : Document :=
  { Document.empty with
    conditions := [⟨"name", some "like", .string "a"⟩]
    between := [[("age", .array [integer 20, integer 40])]] }

/-- Guests of another age who have not left; the bound on the name is malformed. -/
def retired : Document :=
  { Document.empty with
    nulls := ["left"]
    between := [[("name", .string "x"), ("age", .array [integer 60, integer 70])]] }

def retiredFirst : Document :=
  { retired with between := [[("age", .array [integer 60, integer 70])], [("name", .string "x")]] }

def retiredOnly : Document :=
  { retired with between := [[("age", .array [integer 60, integer 70])]] }

def youngPresent : Document := { young with nulls := ["left"] }

def youngOrRetired : Document := { young with between := young.between ++ retired.between }

def youngPlan : Plan :=
  { Plan.empty with
    predicates := [⟨"name", .like, .text "%a%"⟩]
    ranges := [⟨"age", .integer 20, .integer 40⟩] }

def retiredPlan : Plan :=
  { Plan.empty with
    nullChecks := [⟨"left", true⟩]
    ranges := [⟨"age", .integer 60, .integer 70⟩] }

def togetherPlan : Plan :=
  { Plan.empty with
    predicates := [⟨"name", .like, .text "%a%"⟩]
    nullChecks := [⟨"left", true⟩]
    ranges := [⟨"age", .integer 20, .integer 40⟩, ⟨"age", .integer 60, .integer 70⟩]
    skipped := [⟨"name", .notAPair "a string"⟩] }

theorem young_within {d : Document} (hconditions : young.conditions ⊆ d.conditions)
    (hbounds : young.bounds ⊆ d.bounds) : young.Within d :=
  ⟨hconditions, List.nil_subset _, List.nil_subset _, List.nil_subset _, hbounds,
    List.nil_subset _⟩

/-- Dana, who is 65, has the tests of both documents to pass and lies within a range of the second,
so both together admit her, which the first does not. More tests than those of the young still leave
a young guest that the young have, more bounds leave her in, and neither the malformed bound nor the
order of the bounds has a part in who is retired. -/
theorem dana_among_both :
    guests.compile (young ++ retired) = .ok togetherPlan
      ∧ (Query.resolve guests togetherPlan).selects (guest "Dana" 65) = true
      ∧ (Query.resolve guests youngPlan).selects (guest "Dana" 65) = false
      ∧ (∃ p, guests.compile young = .ok p
        ∧ (Query.resolve guests p).selects (guest "Ada" 30) = true)
      ∧ (∃ p, guests.compile youngOrRetired = .ok p
        ∧ (Query.resolve guests p).selects (guest "Ada" 30) = true)
      ∧ (∃ p, guests.compile retired = .ok p ∧ p = { retiredPlan with skipped := p.skipped })
      ∧ ∃ p, guests.compile retiredFirst = .ok p ∧ ∀ row,
        (Query.resolve guests p).selects row = (Query.resolve guests retiredPlan).selects row := by
  have htogether : guests.compile (young ++ retired) = .ok togetherPlan := by decide +kernel
  have honly : guests.compile retiredOnly = .ok retiredPlan := by decide +kernel
  have hyoung : guests.compile young = .ok youngPlan := by decide +kernel
  obtain ⟨-, hselects, htests, hbounds, hmalformed, hrearranges⟩ := selects_append_iff guests
  refine ⟨htogether, ?_, by decide +kernel, ?_, ?_, ?_, ?_⟩
  · obtain ⟨s, t, hs, ht, hiff⟩ := hselects young retired togetherPlan htogether
    have hs' : guests.compile young.withoutRanges = .ok { youngPlan with ranges := [] } := by
      decide +kernel
    have ht' : guests.compile retired.withoutRanges = .ok { retiredPlan with ranges := [] } := by
      decide +kernel
    obtain rfl := Except.ok.inj (hs.symm.trans hs')
    obtain rfl := Except.ok.inj (ht.symm.trans ht')
    refine (hiff (guest "Dana" 65)).mpr ⟨by decide +kernel, by decide +kernel, .inr ?_⟩
    refine ⟨("age", .array [integer 60, integer 70]), by simp [young, retired, Document.bounds],
      .integer 60, .integer 70, ⟨_, _, rfl, rfl, rfl, nofun, nofun⟩, ?_⟩
    exact range_holds_iff.mp (by decide +kernel)
  · have hpresent : guests.compile youngPresent = .ok { youngPlan with
        nullChecks := [⟨"left", true⟩] } := by decide +kernel
    have hadds : young.AddsTests youngPresent := ⟨young_within (fun _ h => h) fun _ h => h, rfl⟩
    obtain ⟨p, hp, hrows⟩ := htests young youngPresent _ hadds hpresent
    exact ⟨p, hp, hrows _ (by decide +kernel)⟩
  · have hwide : guests.compile youngOrRetired = .ok { togetherPlan with nullChecks := [] } := by
      decide +kernel
    have hadds : young.AddsBounds youngOrRetired :=
      ⟨young_within (fun _ h => h) (by simp [young, youngOrRetired, Document.bounds]),
        young.within_withoutRanges⟩
    have hpair : ∃ bound ∈ young.bounds, bound.2.BoundsRange :=
      ⟨("age", .array [integer 20, integer 40]), .head _, by decide +kernel⟩
    obtain ⟨p, hp, hrows⟩ := hbounds young youngOrRetired _ hadds hpair hwide
    obtain rfl := Except.ok.inj (hp.symm.trans hyoung)
    exact ⟨_, hwide, hrows _ (by decide +kernel)⟩
  · have hsame : retiredOnly.SameButMalformed retired := ⟨rfl, rfl, rfl, rfl, rfl, rfl⟩
    obtain ⟨p, hp, hplan, -⟩ := hmalformed retiredOnly retired retiredPlan hsame
      (by decide +kernel) honly
    exact ⟨p, hp, hplan⟩
  · have hpair : retiredFirst.Rearranges retired :=
      ⟨.refl _, .refl _, .refl _, .refl _, .swap .., rfl⟩
    obtain ⟨p, hp, hrows, -⟩ := hrearranges retired retiredFirst
      { retiredPlan with skipped := [⟨"name", .notAPair "a string"⟩] } hpair.symm
      (by decide +kernel)
    exact ⟨p, hp, hrows⟩

end Sample

end Sift

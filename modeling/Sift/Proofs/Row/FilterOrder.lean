import Sift.Proofs.Row.Chronology
import Sift.Proofs.Row.Kinds

/-!
# Filtering and sorting by one column

A filter and a sort each have their own order of column values. On truth values and on numbers the
two agree. On texts they do not: only the filter reads timestamps. So the earlier of two points in
time may be the greater text, and then a row that the filter puts before another is sorted after it
(`Inverted`). And an operand that is a timestamp may lie on different sides of two texts than their
order suggests (`Crosses`), so that the rows that a comparison selects do not stand together in the
sorted rows.

Main statement: `sorted_as_filtered_iff`.
-/

namespace Sift

open Std

/-! ## Values of one kind -/

/-- Both values are truth values, both numbers, or both texts. -/
inductive OneKind : Json → Json → Prop
  | bools (a b : Bool) : OneKind (.bool a) (.bool b)
  | numbers {m n : Number} (hm : m.toBinary64 ≠ .nan) (hn : n.toBinary64 ≠ .nan) :
      OneKind (.number m) (.number n)
  | texts (a b : String) : OneKind (.string a) (.string b)

/-- Both values are timestamps, and the one that is earlier is the greater text. -/
inductive Inverted : Json → Json → Prop
  | texts {a b : String} {s t : Timestamp} (ha : Timestamp.ofText? a = some s)
      (hb : Timestamp.ofText? b = some t) (hearlier : s.compare t = .lt)
      (hgreater : compareText a b = .gt) : Inverted (.string a) (.string b)

/-- The filter puts the operand before `a` and after `b`, or at one of the two, although `a` is the
smaller text. -/
inductive Crosses : Json → Json → Json → Prop
  | texts {y a b : String} (hlt : compareText a b = .lt)
      (h : AtMost y a ∧ ¬ AtMost y b ∨ ¬ AtMost a y ∧ AtMost b y) :
      Crosses (.string y) (.string a) (.string b)

/-- Of two values that lie so to an operand, the second does not lie before it if the first does
not, and the first not behind it if the second does not. -/
structure KeepsSide (o o' : Option Ordering) : Prop where
  below : o' = some .lt → o = some .lt
  above : o = some .gt → o' = some .gt

/-! ## Lists that a filter cuts off -/

/-- A filter keeps a beginning of the list exactly if nothing kept comes after what is not. -/
theorem filter_isPrefix_iff {α : Type} {p : α → Bool} {l : List α} :
    l.filter p <+: l ↔ l.Pairwise fun a b => p b = true → p a = true := by
  constructor
  · rintro ⟨rest, hrest⟩
    -- Whatever the filter lets through is in the prefix.
    have hnone : ∀ b ∈ rest, ¬ p b = true := by
      have hfilter := congrArg (List.filter p) hrest
      rw [List.filter_append, List.filter_filter] at hfilter
      simpa using hfilter
    have hcut : (l.filter p ++ rest).Pairwise fun a b => p b = true → p a = true := by
      rw [List.pairwise_append]
      refine ⟨?_, ?_, fun a ha _ _ _ => (List.mem_filter.mp ha).2⟩
      · exact List.pairwise_of_forall_mem_list fun a ha _ _ _ => (List.mem_filter.mp ha).2
      · exact List.pairwise_of_forall_mem_list fun _ _ b hb hpb => absurd hpb (hnone b hb)
    rwa [hrest] at hcut
  · intro h
    exact ⟨_, filter_append_filter_not h⟩

/-- A filter keeps an end of the list exactly if nothing not kept comes after what is. -/
theorem filter_isSuffix_iff {α : Type} {p : α → Bool} {l : List α} :
    l.filter p <:+ l ↔ l.Pairwise fun a b => p a = true → p b = true := by
  rw [← List.reverse_prefix, ← List.filter_reverse, filter_isPrefix_iff, List.pairwise_reverse]

/-! ## Numbers -/

namespace Binary64

theorem linePosition_mono {s t : Bool} {r q : Nat} (h : totalPosition s r ≤ totalPosition t q) :
    linePosition s r ≤ linePosition t q := by
  unfold totalPosition linePosition at *
  cases s <;> cases t <;> simp_all
  omega

/-- In the total order of numbers, no number is crossed backwards. -/
theorem compare?_mono {x y z : Binary64} (hx : x ≠ .nan) (hy : y ≠ .nan)
    (h : totalCompare x y ≠ .gt) :
    (compare? y z = some .lt → compare? x z = some .lt)
      ∧ (compare? x z = some .gt → compare? y z = some .gt) := by
  cases x with
  | nan => exact absurd rfl hx
  | number s r =>
    cases y with
    | nan => exact absurd rfl hy
    | number t q =>
      cases z with
      | nan => simp [compare?]
      | number u w =>
        rw [totalCompare, Ne, Int.compare_eq_gt, Int.not_lt] at h
        have hline := linePosition_mono h
        simp only [compare?, Option.some.injEq, Int.compare_eq_lt, Int.compare_eq_gt]
        exact ⟨fun hlt => Int.lt_of_le_of_lt hline hlt, fun hgt => Int.lt_of_lt_of_le hgt hline⟩

end Binary64

/-! ## One value after another -/

variable {v v' w : Json} {operand : Scalar}

/-- Values of one kind can be compared. -/
theorem OneKind.compareScalar_isSome (h : OneKind v w) (hw : w.IsOperand operand) :
    (compareScalar v operand).isSome := by
  cases h with
  | bools a b =>
    cases hw.scalar
    rfl
  | @numbers m n hm hn =>
    cases hw.scalar
    rw [compareScalar_number, Binary64.compare?_isSome_iff]
    exact ⟨hm, hn⟩
  | texts a b =>
    cases hw.scalar
    rfl

theorem OneKind.isOperand (h : OneKind v w) : ∃ operand, w.IsOperand operand := by
  cases h with
  | bools _ b => exact ⟨.bool b, rfl, nofun⟩
  | numbers => exact ⟨_, isOperand_number _⟩
  | texts _ b => exact ⟨_, isOperand_string b⟩

/-- In a single order, the sides of a value are kept: what is above stays above. -/
theorem keepsSide_of_le {α : Type} (cmp : α → α → Ordering) [TransCmp cmp] {a b : α}
    (h : cmp a b ≠ .gt) (y : α) : KeepsSide (some (cmp a y)) (some (cmp b y)) := by
  have hle : (cmp a b).isLE := Ordering.isLE_iff_ne_gt.mpr h
  constructor
  · intro hb
    rw [TransCmp.lt_of_isLE_of_lt hle (Option.some.inj hb)]
  · intro ha
    have hya : cmp y a = .lt := OrientedCmp.lt_of_gt (Option.some.inj ha)
    rw [OrientedCmp.gt_of_lt (TransCmp.lt_of_lt_of_isLE hya hle)]

/-- Between texts, the sides are kept unless the two readings of the order cross. -/
theorem keepsSide_texts_iff {a b y : String} (h : compareText a b ≠ .gt) :
    KeepsSide (some (compareReading a y)) (some (compareReading b y))
      ↔ ¬ Crosses (.string y) (.string a) (.string b) := by
  constructor
  · rintro ⟨hbelow, habove⟩ (⟨-, ⟨hya, hyb⟩ | ⟨hay, hby⟩⟩)
    · have hb : compareReading b y = .lt := not_atMost_iff.mp hyb
      exact not_atMost_iff.mpr (Option.some.inj (hbelow (hb ▸ rfl))) hya
    · have ha : compareReading a y = .gt := Decidable.not_not.mp hay
      exact hby (Option.some.inj (habove (ha ▸ rfl)))
  · intro hno
    cases hlt : compareText a b with
    | gt => exact absurd hlt h
    | eq =>
      obtain rfl : a = b := LawfulEqOrd.eq_of_compare hlt
      exact ⟨id, id⟩
    | lt =>
      constructor
      · intro hb
        by_contra ha
        have hyb : ¬ AtMost y b := not_atMost_iff.mpr (Option.some.inj hb)
        have hya : AtMost y a := by
          by_contra hya
          exact ha (congrArg some (not_atMost_iff.mp hya))
        exact hno ⟨hlt, .inl ⟨hya, hyb⟩⟩
      · intro ha
        by_contra hb
        have hay : ¬ AtMost a y := not_not_intro (Option.some.inj ha)
        exact hno ⟨hlt, .inr ⟨hay, fun hgt => hb (congrArg some hgt)⟩⟩

/-- Of two values in the order of the sort, only texts may cross an operand backwards. -/
theorem keepsSide_iff (hv : OneKind v w) (hv' : OneKind v' w) (hw : w.IsOperand operand)
    (h : compareValues (some v) (some v') ≠ .gt) :
    KeepsSide (compareScalar v operand) (compareScalar v' operand) ↔ ¬ Crosses w v v' := by
  cases hv with
  | bools a b =>
    cases hv' with
    | bools a' =>
      cases hw.scalar
      exact iff_of_true (keepsSide_of_le compare h b) nofun
  | @numbers m n hm hn =>
    cases hv' with
    | @numbers m' _ hm' =>
      cases hw.scalar
      refine iff_of_true ?_ nofun
      rw [compareScalar_number, compareScalar_number]
      obtain ⟨hbelow, habove⟩ := Binary64.compare?_mono hm hm' h
      exact ⟨hbelow, habove⟩
  | texts a y =>
    cases hv' with
    | texts b =>
      cases hw.scalar
      exact keepsSide_texts_iff h

/-- If the filter puts a value before another, so does the sort, unless they are inverted. -/
theorem compareValues_of_less (hkind : OneKind v w) (hw : w.IsOperand operand)
    (h : compareScalar v operand = some .lt) :
    (¬ Inverted v w ∧ compareValues (some v) (some w) = .lt)
      ∨ (Inverted v w ∧ compareValues (some v) (some w) = .gt) := by
  cases hkind with
  | bools a b =>
    cases hw.scalar
    exact .inl ⟨nofun, Option.some.inj h⟩
  | @numbers m n hm hn =>
    cases hw.scalar
    rw [compareScalar_number] at h
    exact .inl ⟨nofun, Binary64.totalCompare_eq_lt_of_compare? h⟩
  | texts a b =>
    cases hw.scalar
    have hreading : compareReading a b = .lt := Option.some.inj h
    cases hcompare : compareText a b with
    | lt =>
      refine .inl ⟨?_, hcompare⟩
      rintro ⟨-, -, -, hgreater⟩
      cases hcompare.symm.trans hgreater
    | eq =>
      obtain rfl : a = b := LawfulEqOrd.eq_of_compare hcompare
      cases hreading.symm.trans ReflCmp.compare_self
    | gt =>
      -- The two orders disagree, so both texts are timestamps.
      obtain ⟨s, t, hs, ht⟩ := exists_timestamps_of_ne (by rw [hreading, hcompare]; nofun)
      rw [compareReading_of_timestamps hs ht] at hreading
      exact .inr ⟨⟨hs, ht, hreading, hcompare⟩, hcompare⟩

/-! ## Texts that cross an operand -/

section Crosses

variable {y a b : String}

instance : Decidable (Crosses (.string y) (.string a) (.string b)) :=
  decidable_of_iff (compareText a b = .lt
      ∧ (AtMost y a ∧ ¬ AtMost y b ∨ ¬ AtMost a y ∧ AtMost b y))
    ⟨fun h => .texts h.1 h.2, fun h => by cases h with | texts hlt hsides => exact ⟨hlt, hsides⟩⟩

theorem not_crosses_of_keepsSide (h : compareText a b = .lt →
    KeepsSide (some (compareReading a y)) (some (compareReading b y))) :
    ¬ Crosses (.string y) (.string a) (.string b) := by
  rintro ⟨hlt, hsides⟩
  exact (keepsSide_texts_iff (by rw [hlt]; nofun)).mp (h hlt) ⟨hlt, hsides⟩

/-- Only a timestamp can have texts cross it. -/
theorem Crosses.not_isPlain (h : Crosses (.string y) (.string a) (.string b)) : ¬ IsPlain y := by
  intro hy
  refine not_crosses_of_keepsSide (fun hlt => ?_) h
  rw [compareReading_of_plain (.inr hy), compareReading_of_plain (.inr hy)]
  exact keepsSide_of_le compareText (by rw [hlt]; nofun) y

/-- One of the two texts that cross is a timestamp as well. -/
theorem Crosses.not_isPlain_or (h : Crosses (.string y) (.string a) (.string b)) :
    ¬ IsPlain a ∨ ¬ IsPlain b := by
  by_contra hplain
  obtain ⟨ha, hb⟩ := not_or.mp hplain
  refine not_crosses_of_keepsSide (fun hlt => ?_) h
  rw [compareReading_of_plain (.inl (not_not.mp ha)),
    compareReading_of_plain (.inl (not_not.mp hb))]
  exact keepsSide_of_le compareText (by rw [hlt]; nofun) y

/-- If both are, then the sort has put them the wrong way round. -/
theorem Crosses.inverted (h : Crosses (.string y) (.string a) (.string b)) (ha : ¬ IsPlain a)
    (hb : ¬ IsPlain b) : Inverted (.string b) (.string a) := by
  obtain ⟨s, hs⟩ := Option.ne_none_iff_exists'.mp ha
  obtain ⟨t, ht⟩ := Option.ne_none_iff_exists'.mp hb
  obtain ⟨u, hu⟩ := Option.ne_none_iff_exists'.mp h.not_isPlain
  by_contra hinverted
  -- All three are timestamps, and if the first two stood in their order, nothing would cross.
  refine not_crosses_of_keepsSide (fun hlt => ?_) h
  have hle : s.compare t ≠ .gt := by
    intro hgt
    exact hinverted ⟨ht, hs, OrientedCmp.lt_of_gt hgt, OrientedCmp.gt_of_lt hlt⟩
  rw [compareReading_of_timestamps hs hu, compareReading_of_timestamps ht hu]
  exact keepsSide_of_le Timestamp.compare hle u

end Crosses

/-! ## Rows in order -/

def sideOf (operand : Scalar) (field : String) (row : Json) : Option Ordering :=
  (row.field? field).bind (compareScalar · operand)

/-- What is accepted by an operator that looks downwards is closed downwards, and likewise
upwards. -/
theorem KeepsSide.accepts {o o' : Option Ordering} (h : KeepsSide o o') (ho : o.isSome)
    (ho' : o'.isSome) {op : Operator} :
    ((op = .less ∨ op = .lessOrEqual) → o'.any op.accepts = true → o.any op.accepts = true)
      ∧ ((op = .greater ∨ op = .greaterOrEqual) → o.any op.accepts = true →
        o'.any op.accepts = true) := by
  obtain ⟨hbelow, habove⟩ := h
  obtain ⟨x, rfl⟩ := Option.isSome_iff_exists.mp ho
  obtain ⟨y, rfl⟩ := Option.isSome_iff_exists.mp ho'
  rw [Option.some.injEq, Option.some.injEq] at hbelow habove
  rw [Option.any_some, Option.any_some]
  constructor
  · rintro (rfl | rfl) hy
    · exact beq_iff_eq.mpr (hbelow (beq_iff_eq.mp hy))
    · exact bne_iff_ne.mpr fun hx => bne_iff_ne.mp hy (habove hx)
  · rintro (rfl | rfl) hx
    · exact beq_iff_eq.mpr (habove (beq_iff_eq.mp hx))
    · exact bne_iff_ne.mpr fun hy => bne_iff_ne.mp hx (hbelow hy)

namespace Entity

variable {e : Entity} {field : String} {rows : List Json}

/-- All rows have a key, and in the column a value of the kind of `w`. -/
def HoldKind (e : Entity) (field : String) (w : Json) (rows : List Json) : Prop :=
  ∀ row ∈ rows, ∃ v, e.Holds field v row ∧ OneKind v w

/-- The rows that a comparison with the value selects stand together in the sorted rows: at the
beginning if it asks for less, at the end if it asks for more. -/
structure StandTogether (e : Entity) (field : String) (w : Json) (rows : List Json) : Prop where
  first : ∀ {c op}, c.Asks field op w → op = .less ∨ op = .lessOrEqual → ∃ p q,
    e.compile (.comparing c) = .ok p ∧ e.compile (.ascending field) = .ok q
    ∧ (sortRows (Query.resolve e q).sort rows).filter (Query.resolve e p).selects
      <+: sortRows (Query.resolve e q).sort rows
  last : ∀ {c op}, c.Asks field op w → op = .greater ∨ op = .greaterOrEqual → ∃ p q,
    e.compile (.comparing c) = .ok p ∧ e.compile (.ascending field) = .ok q
    ∧ (sortRows (Query.resolve e q).sort rows).filter (Query.resolve e p).selects
      <:+ sortRows (Query.resolve e q).sort rows

variable {w : Json} {operand : Scalar}

/-- Of rows with values of one kind, a comparison selects those whose side its operator accepts. -/
theorem filter_selects_eq (hfield : field ∈ e.queryable) (hw : w.IsOperand operand)
    (hrows : e.HoldKind field w rows) {c : Condition} {op : Operator} (hc : c.Asks field op w)
    {p : Plan} (hp : e.compile (.comparing c) = .ok p) (keys : List SortKey) :
    (sortRows keys rows).filter (Query.resolve e p).selects
      = (sortRows keys rows).filter fun row => (sideOf operand field row).any op.accepts := by
  apply List.filter_congr
  intro row hrow
  obtain ⟨v, hv, -⟩ := hrows row ((sortRows_perm keys rows).mem_iff.mp hrow)
  rw [Bool.eq_iff_iff, ← selects_iff_of_compile hp, selects_comparing_iff hfield hc hw hv, sideOf,
    hv.value, Option.bind_some]

/-- Among rows of one kind, each lies on some side of the value. -/
theorem HoldKind.sideOf_isSome (hrows : e.HoldKind field w rows) (hw : w.IsOperand operand)
    {row : Json} (hrow : row ∈ rows) : (sideOf operand field row).isSome := by
  obtain ⟨v, hv, hkind⟩ := hrows row hrow
  rw [sideOf, hv.value, Option.bind_some]
  exact hkind.compareScalar_isSome hw

/-- The filters keep stretches of the sorted rows exactly if no two rows change sides. -/
theorem standTogether_iff_pairwise (hfield : field ∈ e.queryable) (hw : w.IsOperand operand)
    (hrows : e.HoldKind field w rows) : e.StandTogether field w rows
      ↔ (sortRows (Query.settledSort e [⟨field, .ascending⟩]) rows).Pairwise fun a b =>
        KeepsSide (sideOf operand field a) (sideOf operand field b) := by
  constructor
  · intro h
    -- Two of the operators say all: `<` that nothing falls below, and `>` that nothing rises above.
    have hless := asks_text .less nofun field w
    have hgreater := asks_text .greater nofun field w
    obtain ⟨p, q, hp, hq, hfirst⟩ := h.first hless (.inl rfl)
    obtain ⟨p', q', hp', hq', hlast⟩ := h.last hgreater (.inl rfl)
    rw [sort_of_compile_ascending hq, filter_selects_eq hfield hw hrows hless hp,
      filter_isPrefix_iff] at hfirst
    rw [sort_of_compile_ascending hq', filter_selects_eq hfield hw hrows hgreater hp',
      filter_isSuffix_iff] at hlast
    refine hfirst.imp₂ (fun a b hbelow habove => ⟨?_, ?_⟩) hlast
    · simpa [Operator.accepts, Option.any_eq_true] using hbelow
    · simpa [Operator.accepts, Option.any_eq_true] using habove
  · intro hpairwise
    have hsome : ∀ row ∈ sortRows (Query.settledSort e [⟨field, .ascending⟩]) rows,
        (sideOf operand field row).isSome := fun row hrow =>
      hrows.sideOf_isSome hw ((sortRows_perm _ rows).mem_iff.mp hrow)
    obtain ⟨q, hq⟩ := exists_compile_ascending hfield
    constructor
    · intro c op hc hop
      obtain ⟨p, hp⟩ := exists_compile_comparing hfield hc hw
      refine ⟨p, q, hp, hq, ?_⟩
      rw [sort_of_compile_ascending hq, filter_selects_eq hfield hw hrows hc hp,
        filter_isPrefix_iff]
      exact hpairwise.imp_of_mem fun ha hb h => (h.accepts (hsome _ ha) (hsome _ hb)).1 hop
    · intro c op hc hop
      obtain ⟨p, hp⟩ := exists_compile_comparing hfield hc hw
      refine ⟨p, q, hp, hq, ?_⟩
      rw [sort_of_compile_ascending hq, filter_selects_eq hfield hw hrows hc hp,
        filter_isSuffix_iff]
      exact hpairwise.imp_of_mem fun ha hb h => (h.accepts (hsome _ ha) (hsome _ hb)).2 hop

/-- The selected rows stand together if no two of the rows cross the operand. -/
theorem standTogether_iff (hfield : field ∈ e.queryable) (hw : w.IsOperand operand)
    (hrows : e.HoldKind field w rows) : e.StandTogether field w rows
      ↔ ∀ row ∈ rows, ∀ row' ∈ rows, ∀ v v', row.field? field = some v →
        row'.field? field = some v' → ¬ Crosses w v v' := by
  rw [standTogether_iff_pairwise hfield hw hrows]
  have hside : ∀ row ∈ rows, ∀ row' ∈ rows, ∀ v v', row.field? field = some v →
      row'.field? field = some v' → compareValues (some v) (some v') ≠ .gt →
        (KeepsSide (sideOf operand field row) (sideOf operand field row')
          ↔ ¬ Crosses w v v') := by
    intro row hrow row' hrow' v v' hv hv' hle
    obtain ⟨u, hu, hkind⟩ := hrows row hrow
    obtain ⟨u', hu', hkind'⟩ := hrows row' hrow'
    cases hv.symm.trans hu.value
    cases hv'.symm.trans hu'.value
    rw [sideOf, sideOf, hv, hv', Option.bind_some, Option.bind_some]
    exact keepsSide_iff hkind hkind' hw hle
  constructor
  · intro hpairwise row hrow row' hrow' v v' hv hv' hcrosses
    -- The smaller text stands before the greater in the sorted rows.
    have hlt : compareValues (row.field? field) (row'.field? field) = .lt := by
      rw [hv, hv']
      cases hcrosses with
      | texts hlt => exact hlt
    have hbefore : Sift.SortsBefore (Query.settledSort e [⟨field, .ascending⟩]) row row' := by
      rw [sortsBefore_iff, compareRows_settledSort (by rw [hlt]; nofun), hlt]
    obtain ⟨i, hi⟩ := List.mem_iff_getElem?.mp ((sortRows_perm _ rows).mem_iff.mpr hrow)
    obtain ⟨j, hj⟩ := List.mem_iff_getElem?.mp ((sortRows_perm _ rows).mem_iff.mpr hrow')
    have hij := hbefore rows i j hi hj
    obtain ⟨hi', rfl⟩ := List.getElem?_eq_some_iff.mp hi
    obtain ⟨hj', rfl⟩ := List.getElem?_eq_some_iff.mp hj
    have hkeeps := List.pairwise_iff_getElem.mp hpairwise i j hi' hj' hij
    rw [hv, hv'] at hlt
    exact (hside _ hrow _ hrow' v v' hv hv' (by rw [hlt]; nofun)).mp hkeeps hcrosses
  · intro hno
    refine (sortRows_ordered (Query.settledSort e [⟨field, .ascending⟩]) rows).imp_of_mem ?_
    intro a b ha hb hle
    have ha' := (sortRows_perm _ rows).mem_iff.mp ha
    have hb' := (sortRows_perm _ rows).mem_iff.mp hb
    obtain ⟨v, hv, -⟩ := hrows a ha'
    obtain ⟨v', hv', -⟩ := hrows b hb'
    have hvalues : compareValues (some v) (some v') ≠ .gt := by
      intro hgt
      rw [← hv.value, ← hv'.value] at hgt
      rw [compareRows_settledSort (by rw [hgt]; nofun)] at hle
      exact hle hgt
    exact (hside a ha' b hb' v v' hv.value hv'.value hvalues).mpr
      (hno a ha' b hb' v v' hv.value hv'.value)

/-- If the filter puts a row before another, the sort does so, too, unless the values are
inverted. -/
theorem sortsBefore_iff_not_inverted (hfield : field ∈ e.queryable) {v : Json}
    (hkind : OneKind v w) {row row' : Json} (hv : e.Holds field v row)
    (hv' : e.Holds field w row') {c : Condition} (hc : c.Asks field .less w)
    (hselects : e.Selects (.comparing c) row) :
    e.SortsBefore (.ascending field) row row' ↔ ¬ Inverted v w := by
  obtain ⟨operand, hw⟩ := hkind.isOperand
  rw [selects_comparing_iff hfield hc hw hv, Option.any_eq_true] at hselects
  obtain ⟨o, ho, haccepts⟩ := hselects
  obtain rfl : o = .lt := beq_iff_eq.mp haccepts
  rw [sortsBefore_ascending_iff hfield]
  rcases compareValues_of_less hkind hw ho with ⟨hno, hlt⟩ | ⟨hinverted, hgt⟩
  · rw [← hv.value, ← hv'.value] at hlt
    rw [compareRows_settledSort (by rw [hlt]; nofun), hlt]
    exact iff_of_true rfl hno
  · rw [← hv.value, ← hv'.value] at hgt
    rw [compareRows_settledSort (by rw [hgt]; nofun), hgt]
    exact iff_of_false nofun (not_not_intro hinverted)

end Entity

/-- **Sorting agrees with filtering but for timestamps in different spellings.** If a comparison
by `<` with the value of one row selects another row with a value of the same kind, sorting by the
column puts the selected row first, unless the two values are timestamps and the earlier one is the
greater text. And the rows that comparisons with a value select stand together at one end of the
sorted rows of its kind, unless the value is a timestamp and two of the rows cross it: at least one
of these is a timestamp, too, and if both are they are inverted. -/
theorem sorted_as_filtered_iff {e : Entity} {field : String} (hfield : field ∈ e.queryable) :
    (∀ {v w row row' c}, OneKind v w → e.Holds field v row → e.Holds field w row' →
        c.Asks field .less w → e.Selects (.comparing c) row →
          (e.SortsBefore (.ascending field) row row' ↔ ¬ Inverted v w))
      ∧ (∀ {w rows}, OneKind w w → e.HoldKind field w rows →
        (e.StandTogether field w rows ↔ ∀ row ∈ rows, ∀ row' ∈ rows, ∀ v v',
          row.field? field = some v → row'.field? field = some v' → ¬ Crosses w v v'))
      ∧ ∀ {y a b}, Crosses (.string y) (.string a) (.string b) →
        ¬ IsPlain y ∧ (¬ IsPlain a ∨ ¬ IsPlain b)
          ∧ (¬ IsPlain a → ¬ IsPlain b → Inverted (.string b) (.string a)) := by
  refine ⟨?_, ?_, ?_⟩
  · intro v w row row' c hkind hv hv' hc hselects
    exact Entity.sortsBefore_iff_not_inverted hfield hkind hv hv' hc hselects
  · intro w rows hkind hrows
    obtain ⟨operand, hw⟩ := hkind.isOperand
    exact Entity.standTogether_iff hfield hw hrows
  · intro y a b hcrosses
    exact ⟨hcrosses.not_isPlain, hcrosses.not_isPlain_or, hcrosses.inverted⟩

/-! ### Morning and evening -/

namespace Sample

def spaced : List String := ["2024-01-05 10:00:00", "2024-01-05 23:59:59"]

theorem arrivals_holdKind (y : String) (texts : List String) :
    guests.HoldKind "joined" (.string y) (texts.map arrival) := by
  intro row hrow
  obtain ⟨text, -, rfl⟩ := List.mem_map.mp hrow
  exact ⟨_, arrival_holds text, .texts text y⟩

/-- The earlier of two guests who joined on one day is sorted last, as only her time of day follows
a `T`. A comparison with the later time selects her alone, and she is not at the beginning. -/
theorem morning_sorted_last :
    guests.Selects (.comparing ⟨"joined", some "<", .string "2024-01-05 23:59:59"⟩)
        (arrival "2024-01-05T10:00:00")
      ∧ ¬ guests.SortsBefore (.ascending "joined") (arrival "2024-01-05T10:00:00")
        (arrival "2024-01-05 23:59:59")
      ∧ ¬ guests.StandTogether "joined" (.string "2024-01-05 23:59:59")
        (["2024-01-05T10:00:00", "2024-01-05 23:59:59"].map arrival) := by
  have hjoined : "joined" ∈ guests.queryable := by decide +kernel
  refine ⟨?_, ?_, ?_⟩
  · exact (Entity.selects_comparing_iff hjoined (asks_text .less nofun _ _) (isOperand_string _)
      (arrival_holds _)).mpr (by decide +kernel)
  · rw [Entity.sortsBefore_ascending_iff hjoined]
    decide +kernel
  · intro h
    have hno := (Entity.standTogether_iff hjoined (isOperand_string _)
      (arrivals_holdKind _ _)).mp h (arrival "2024-01-05 23:59:59") (.tail _ (.head _))
      (arrival "2024-01-05T10:00:00") (.head _) _ _ rfl rfl
    exact hno (.texts (by decide +kernel) (by decide +kernel))

/-- Guests whose times are all spelled alike are sorted as they are filtered. -/
theorem morning_sorted_first :
    "joined" ∈ guests.queryable
      ∧ guests.Holds "joined" (.string "2024-01-05 10:00:00") (arrival "2024-01-05 10:00:00")
      ∧ guests.Selects (.comparing ⟨"joined", some "<", .string "2024-01-05 23:59:59"⟩)
        (arrival "2024-01-05 10:00:00")
      ∧ guests.SortsBefore (.ascending "joined") (arrival "2024-01-05 10:00:00")
        (arrival "2024-01-05 23:59:59")
      ∧ guests.StandTogether "joined" (.string "2024-01-05 23:59:59")
        (spaced.map arrival) := by
  have hjoined : "joined" ∈ guests.queryable := by decide +kernel
  have hasks := asks_text .less nofun "joined" (.string "2024-01-05 23:59:59")
  have hselects := (Entity.selects_comparing_iff hjoined hasks (isOperand_string _)
    (arrival_holds "2024-01-05 10:00:00")).mpr (by decide +kernel)
  obtain ⟨hsorts, htogether, hcrosses⟩ := sorted_as_filtered_iff hjoined
  refine ⟨hjoined, arrival_holds _, hselects, ?_, ?_⟩
  · refine (hsorts (.texts _ _) (arrival_holds _) (arrival_holds _) hasks hselects).mpr ?_
    rintro ⟨-, -, -, hgreater⟩
    revert hgreater
    decide +kernel
  · have hno : ∀ a ∈ spaced, ∀ b ∈ spaced,
        ¬ Crosses (.string "2024-01-05 23:59:59") (.string a) (.string b) := by decide +kernel
    refine (htogether (.texts _ _) (arrivals_holdKind _ _)).mpr ?_
    intro row hrow row' hrow' v v' hv hv'
    obtain ⟨a, ha, rfl⟩ := List.mem_map.mp hrow
    obtain ⟨b, hb, rfl⟩ := List.mem_map.mp hrow'
    cases hv
    cases hv'
    exact hno a ha b hb

end Sample

end Sift

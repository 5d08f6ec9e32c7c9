import Sift.Proofs.Compile.Single
import Sift.Proofs.Search.InsertionOrder

/-!
# Comparisons and what cannot be compared

A value of a column and an operand are commensurable if both are truth values, if both are texts, or
if both read as numbers. A comparison is defined exactly for these (`compareScalar_isSome_iff`).
Where it is, the operators divide the rows among themselves as in a linear order; where it is not,
no operator accepts the row, not even the one for unequal values (`NullLogic`).

So the rows that equal an operand and the rows that do not are together not all rows: they are those
that hold something commensurable with it. The totals of searches say the same.

Main statement: `comparisons_follow_nullLogic`.
-/

namespace Sift

/-! ## What can be compared -/

/-- The number that a value reads as: a number itself, or the one that a text writes. -/
def Json.reading? : Json → Option Binary64
  | .number n => some n.toBinary64
  | .string s => Binary64.ofText? s
  | _ => none

/-- The value reads as a number, and not as one of the texts that stand for none. -/
def Json.ReadsAsNumber (value : Json) : Prop := ∃ x ∈ value.reading?, x ≠ .nan

/-- Both values are truth values, or both are texts. -/
inductive Alike : Json → Json → Prop
  | bools (a b : Bool) : Alike (.bool a) (.bool b)
  | texts (a b : String) : Alike (.string a) (.string b)

/-- The value of a column can be compared with an operand: the two are alike, or both read as
numbers. -/
def Commensurable (value v : Json) : Prop :=
  Alike value v ∨ value.ReadsAsNumber ∧ v.ReadsAsNumber

/-- The row holds something in the column that can be compared with the operand. -/
def HoldsCommensurable (row : Json) (field : String) (v : Json) : Prop :=
  ∃ value ∈ row.field? field, Commensurable value v

theorem compareNumeric_none_right (x : Option Binary64) : compareNumeric x none = none := by
  cases x <;> rfl

/-- Two values compare as numbers if both are numbers, other than the one that is none. -/
theorem compareNumeric_isSome_iff {x y : Option Binary64} : (compareNumeric x y).isSome = true
    ↔ (∃ a ∈ x, a ≠ .nan) ∧ ∃ b ∈ y, b ≠ .nan := by
  cases x with
  | none => simp [compareNumeric]
  | some a =>
    cases y with
    | none => simp [compareNumeric_none_right]
    | some b => simpa [compareNumeric] using Binary64.compare?_isSome_iff a b

variable {value v row : Json} {operand : Scalar} {field : String}

/-- A scalar has the number of the value it is read from. -/
theorem Json.IsOperand.toBinary64?_eq (hv : v.IsOperand operand) :
    operand.toBinary64? = v.reading? := by
  cases v with
  | number n =>
    cases hv.scalar
    exact Scalar.toBinary64?_ofNumber n
  | null => exact absurd rfl hv.value_ne_null
  | array _ | object _ => cases hv.scalar
  | bool _ | string _ =>
    cases hv.scalar
    rfl

theorem Json.IsOperand.eq_bool {b : Bool} (hv : v.IsOperand (.bool b)) : v = .bool b := by
  have hscalar := hv.scalar
  cases v with
  | number n => cases n <;> grind [Scalar.ofJson?, Scalar.ofNumber]
  | _ => grind [Scalar.ofJson?]

theorem Json.IsOperand.eq_string {s : String} (hv : v.IsOperand (.text s)) : v = .string s := by
  have hscalar := hv.scalar
  cases v with
  | number n => cases n <;> grind [Scalar.ofJson?, Scalar.ofNumber]
  | _ => grind [Scalar.ofJson?]

/-- Values of the same kind always compare. -/
theorem compareScalar_of_alike (hv : v.IsOperand operand) (h : Alike value v) :
    (compareScalar value operand).isSome = true := by
  cases h with
  | bools a b =>
    cases hv.scalar
    rfl
  | texts a b =>
    cases hv.scalar
    rfl

/-- Values of different kinds compare as numbers if they do at all. -/
theorem compareScalar_of_not_alike (hv : v.IsOperand operand) (h : ¬ Alike value v) :
    compareScalar value operand = compareNumeric value.reading? v.reading? := by
  rw [← hv.toBinary64?_eq]
  cases value with
  | number n => rfl
  | bool a =>
    cases operand with
    | bool b =>
      cases hv.eq_bool
      exact absurd (.bools a b) h
    | _ => rfl
  | string a =>
    cases operand with
    | text b =>
      cases hv.eq_string
      exact absurd (.texts a b) h
    | integer _ | decimal _ => rfl
    -- The text may well read as a number, but the operand does not.
    | null | bool _ => exact (compareNumeric_none_right _).symm
  | _ => rfl

/-- A comparison is defined exactly between commensurable values. -/
theorem compareScalar_isSome_iff (hv : v.IsOperand operand) :
    (compareScalar value operand).isSome = true ↔ Commensurable value v := by
  by_cases h : Alike value v
  · exact iff_of_true (compareScalar_of_alike hv h) (.inl h)
  · rw [compareScalar_of_not_alike hv h, compareNumeric_isSome_iff]
    exact (or_iff_right h).symm

theorem Commensurable.exists_isOperand (h : Commensurable value v) :
    ∃ operand, v.IsOperand operand := by
  cases v with
  | bool b => exact ⟨.bool b, rfl, nofun⟩
  | number n => exact ⟨_, isOperand_number n⟩
  | string s => exact ⟨_, isOperand_string s⟩
  | null | array _ | object _ => rcases h with ⟨⟨⟩⟩ | ⟨-, _, ⟨⟩, -⟩

theorem exists_compareScalar_isSome_iff :
    (∃ operand ∈ Scalar.ofJson? v, (compareScalar value operand).isSome = true)
      ↔ Commensurable value v := by
  constructor
  · rintro ⟨operand, hscalar, h⟩
    refine (compareScalar_isSome_iff ⟨hscalar, ?_⟩).mp h
    rintro rfl
    rw [compareScalar_null_right] at h
    cases h
  · intro h
    obtain ⟨operand, hv⟩ := h.exists_isOperand
    exact ⟨operand, hv.scalar, (compareScalar_isSome_iff hv).mpr h⟩

/-- To find out whether two values are commensurable, compare them. -/
instance (value v : Json) : Decidable (Commensurable value v) :=
  decidable_of_iff _ exists_compareScalar_isSome_iff

instance (row : Json) (field : String) (v : Json) : Decidable (HoldsCommensurable row field v) :=
  inferInstanceAs (Decidable (∃ value ∈ row.field? field, Commensurable value v))

/-! ## How the operators divide the rows -/

/-- What the operators accept, given whether the comparison is defined. -/
structure NullLogic (defined : Prop) (accepts : Operator → Bool) : Prop where
  one : defined → [Operator.less, .equal, .greater].countP accepts = 1
  lessOrEqual : accepts .lessOrEqual = (accepts .less || accepts .equal)
  greaterOrEqual : accepts .greaterOrEqual = (accepts .greater || accepts .equal)
  notEqual : accepts .notEqual = (accepts .less || accepts .greater)
  none : ¬ defined → ∀ op, op ≠ .like → accepts op = false

/-- The operators accept orders by the rules of a linear order, and what has no order by none. -/
theorem nullLogic_of_order {defined : Prop} {accepts : Operator → Bool} {order : Option Ordering}
    (hdefined : order.isSome = true ↔ defined)
    (haccepts : ∀ op, op ≠ .like → accepts op = order.any op.accepts) :
    NullLogic defined accepts := by
  refine ⟨?_, ?_, ?_, ?_, ?_⟩
  · intro h
    obtain ⟨o, rfl⟩ := Option.isSome_iff_exists.mp (hdefined.mpr h)
    have hsame : ∀ op ∈ [Operator.less, .equal, .greater], accepts op = op.accepts o := by
      intro op hop
      apply haccepts
      rintro rfl
      exact absurd hop (by decide)
    rw [List.countP_congr fun op hop => iff_of_eq (congrArg (· = true) (hsame op hop))]
    -- Whatever the outcome, one of the three operators accepts it.
    cases o <;> rfl
  · rw [haccepts .lessOrEqual nofun, haccepts .less nofun, haccepts .equal nofun]
    cases order with
    | none => rfl
    | some o => exact (Operator.accepts_trichotomy o).1
  · rw [haccepts .greaterOrEqual nofun, haccepts .greater nofun, haccepts .equal nofun]
    cases order with
    | none => rfl
    | some o => exact (Operator.accepts_trichotomy o).2.1
  · rw [haccepts .notEqual nofun, haccepts .less nofun, haccepts .greater nofun]
    cases order with
    | none => rfl
    | some o => exact (Operator.accepts_trichotomy o).2.2
  · intro h op hop
    rw [haccepts op hop, Option.not_isSome_iff_eq_none.mp (mt hdefined.mp h)]
    rfl

/-- A predicate holds if the comparison is defined and comes out as the operator wants. -/
theorem predicate_holds_eq_any {op : Operator} (hop : op ≠ .like) :
    (Predicate.mk field op operand).holds row
      = ((row.field? field).bind (compareScalar · operand)).any op.accepts := by
  unfold Predicate.holds
  cases row.field? field with
  | none => rfl
  | some value => cases op <;> first | rfl | exact absurd rfl hop

/-- Of the rows, those that an operator accepts. -/
theorem nullLogic_holds (hv : v.IsOperand operand) (field : String) (row : Json) :
    NullLogic (HoldsCommensurable row field v)
      fun op => (Predicate.mk field op operand).holds row := by
  refine nullLogic_of_order ?_ fun op hop => predicate_holds_eq_any hop
  unfold HoldsCommensurable
  cases row.field? field with
  | none => simp
  | some value => simpa using compareScalar_isSome_iff hv

/-- An entry that asks for a comparison with a scalar compiles to it. -/
theorem comparison_of_asks {allowed : FieldSet} {c : Condition} {op : Operator}
    (hfield : field ∈ allowed) (hc : c.Asks field op v) (hv : v.IsOperand operand) :
    Compile.comparison allowed c = .ok (.predicate ⟨field, op, operand⟩) := by
  have hnull := hv.value_ne_null
  obtain ⟨rfl, rfl, hmeans, hlike⟩ := hc
  apply Compile.comparison_eq_ok_iff.mpr
  refine ⟨hfield, op, operator_eq_ok_iff.mpr (meantOperator?_eq_some_iff.mpr hmeans), ?_⟩
  exact comparisonWith_eq_ok_iff.mpr (.inr (.inr (.inr ⟨hnull, hlike, operand, hv.scalar, rfl⟩)))

/-! ## How many rows there are -/

namespace NullLogic

theorem equal_eq {defined : Prop} [Decidable defined] {accepts : Operator → Bool}
    (h : NullLogic defined accepts) :
    accepts .equal = (decide defined && accepts .equal) := by
  by_cases hdefined : defined
  · simp [hdefined]
  · rw [h.none hdefined .equal nofun, Bool.and_false]

/-- Where the comparison is defined, `!=` is the negation of `=`; elsewhere neither holds. -/
theorem notEqual_eq {defined : Prop} [Decidable defined] {accepts : Operator → Bool}
    (h : NullLogic defined accepts) :
    accepts .notEqual = (decide defined && !accepts .equal) := by
  by_cases hdefined : defined
  · have hone := h.one hdefined
    have hnotEqual := h.notEqual
    simp only [List.countP_cons, List.countP_nil] at hone
    grind
  · rw [h.none hdefined .notEqual nofun, decide_eq_false hdefined, Bool.false_and]

/-- The rows that equal an operand and those that do not are those for which this is defined. -/
theorem countP_equal_add_countP_notEqual {α : Type} {defined : α → Prop} [DecidablePred defined]
    {accepts : α → Operator → Bool} (h : ∀ a, NullLogic (defined a) (accepts a)) (sel : α → Bool)
    (l : List α) : l.countP (fun a => sel a && accepts a .equal)
      + l.countP (fun a => sel a && accepts a .notEqual)
        = l.countP fun a => sel a && decide (defined a) := by
  have hequal : (fun a => sel a && accepts a .equal)
      = fun a => (sel a && decide (defined a)) && accepts a .equal := by
    funext a
    rw [Bool.and_assoc, ← (h a).equal_eq]
  have hnotEqual : (fun a => sel a && accepts a .notEqual)
      = fun a => (sel a && decide (defined a)) && !accepts a .equal := by
    funext a
    rw [Bool.and_assoc, ← (h a).notEqual_eq]
  rw [hequal, hnotEqual, List.countP_eq_countP_filter_add l (fun a => sel a && decide (defined a))
    fun a => accepts a .equal, List.countP_filter, List.countP_filter]

end NullLogic

/-- A search of the store by the document says that there are so many rows, on every page. -/
def Store.HasTotal (s : Store) (e : Entity) (d : Document) (total : Nat) : Prop :=
  ∃ p, e.compile d = .ok p
    ∧ ∀ r, ∃ page, (s.backend.execute p e r).result = .ok page ∧ page.total = total

variable {s : Store} {e : Entity} {p : Plan} {d d' : Document} {c : Condition} {op : Operator}

/-- A search of an unbroken store counts the rows that its plan selects. -/
theorem hasTotal_of_compile (hs : s.broken = false) (hp : e.compile d = .ok p)
    (hbuilt : p.largePattern? = none) :
    s.HasTotal e d ((s.rows e.table).countP (Query.resolve e p).selects) := by
  have hlength : (s.selection e p).length
      = (s.rows e.table).countP (Query.resolve e p).selects := by
    unfold Store.selection
    rw [(sortRows_perm _ _).length_eq, List.countP_eq_length_filter]
  rw [← hlength]
  exact ⟨p, hp, Store.exists_page_total hs hbuilt⟩

/-- With one more comparison, a search counts those of the rows that pass it. -/
theorem hasTotal_comparing (hs : s.broken = false) (hp : e.compile d = .ok p)
    (hbuilt : p.largePattern? = none) (hfield : field ∈ e.queryable) (hc : c.Asks field op v)
    (hv : v.IsOperand operand) (hd : (d ++ .comparing c).Rearranges d') :
    s.HasTotal e d' ((s.rows e.table).countP fun row =>
      (Query.resolve e p).selects row && (Predicate.mk field op operand).holds row) := by
  obtain ⟨p₁, hp₁⟩ := exists_compile_append_iff.mpr
    ⟨⟨p, hp⟩, Entity.exists_compile_comparing hfield hc hv⟩
  obtain ⟨p₂, hp₂, -, hbuilt₂, hsame⟩ := hd.exists_compile hp₁
  rw [largePattern?_append_comparing hp hp₁ hc] at hbuilt₂
  have hselects : (Query.resolve e p₂).selects = fun row =>
      (Query.resolve e p).selects row && (Predicate.mk field op operand).holds row := by
    funext row
    rw [hsame, Bool.eq_iff_iff, Bool.and_eq_true, selects_eq_true_iff hp₁, selects_eq_true_iff hp,
      predicate_holds_iff hc.ne_like, ← hc.holds_iff hv, ← Document.admits_append_comparing_iff]
  rw [← hselects]
  exact hasTotal_of_compile hs hp₂ (hbuilt₂ hbuilt)

/-- **Comparisons follow the null logic of SQL.** The comparison of a column's value with an operand
other than null is defined exactly for commensurable values. Where it is, exactly one of `<`, `=`
and `>` accepts the row, and the other operators accept what two of these accept together. Where it
is not, as for a column that is missing, null, an array or an object, no operator accepts the row.

So if a document that compiles, and whose patterns can be built, is given one more comparison, the
total for `=` and the total for `!=` add up to the number of those rows that the document selects
and that hold a value commensurable with the operand. -/
theorem comparisons_follow_nullLogic (hfield : field ∈ e.queryable) (hv : v.IsOperand operand) :
    (∀ value, (compareScalar value operand).isSome = true ↔ Commensurable value v)
      ∧ (∀ (c : Condition) (op : Operator), c.Asks field op v →
          Compile.comparison e.queryable c = .ok (.predicate ⟨field, op, operand⟩))
      ∧ (∀ row, NullLogic (HoldsCommensurable row field v)
          fun op => (Predicate.mk field op operand).holds row)
      ∧ ∀ (s : Store) (d de dn : Document) (p : Plan) (ce cn : Condition), s.broken = false →
        e.compile d = .ok p → p.largePattern? = none → ce.Asks field .equal v →
        cn.Asks field .notEqual v → (d ++ .comparing ce).Rearranges de →
        (d ++ .comparing cn).Rearranges dn → ∃ n m, s.HasTotal e de n ∧ s.HasTotal e dn m
          ∧ n + m = (s.rows e.table).countP fun row =>
            (Query.resolve e p).selects row && decide (HoldsCommensurable row field v) := by
  have hnull := nullLogic_holds hv field
  refine ⟨fun _ => compareScalar_isSome_iff hv, fun _ _ hc => comparison_of_asks hfield hc hv,
    hnull, ?_⟩
  intro s d de dn p ce cn hs hp hbuilt hce hcn hde hdn
  exact ⟨_, _, hasTotal_comparing hs hp hbuilt hfield hce hv hde,
    hasTotal_comparing hs hp hbuilt hfield hcn hv hdn,
    NullLogic.countP_equal_add_countP_notEqual hnull _ _⟩

/-! ### Four users and a text that writes a number -/

namespace Sample

/-- Of the four users with a key, the one of no age neither is thirty nor is not. -/
theorem thirty_or_not :
    "age" ∈ users.queryable ∧ (Json.string " 30 ").IsOperand (.text " 30 ")
      ∧ store.broken = false ∧ users.compile .empty = .ok .empty
      ∧ Plan.empty.largePattern? = none
      ∧ ∃ n m, store.HasTotal users (.comparing ⟨"age", some "=", .string " 30 "⟩) n
        ∧ store.HasTotal users (.comparing ⟨"age", some "!=", .string " 30 "⟩) m ∧ n + m = 3 := by
  have hfield : "age" ∈ users.queryable := by decide
  have hv := isOperand_string " 30 "
  obtain ⟨-, -, -, htotals⟩ := comparisons_follow_nullLogic hfield hv
  obtain ⟨n, m, hn, hm, hsum⟩ := htotals store .empty
    (.comparing ⟨"age", some "=", .string " 30 "⟩) (.comparing ⟨"age", some "!=", .string " 30 "⟩)
    .empty _ _ rfl rfl rfl (asks_text .equal nofun ..) (asks_text .notEqual nofun ..)
    ⟨.refl _, .refl _, .refl _, .refl _, .refl _, rfl⟩
    ⟨.refl _, .refl _, .refl _, .refl _, .refl _, rfl⟩
  refine ⟨hfield, hv, rfl, rfl, rfl, n, m, hn, hm, hsum.trans ?_⟩
  decide +kernel

end Sample

end Sift

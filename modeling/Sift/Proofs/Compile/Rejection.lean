import Sift.Proofs.Compile.Meaning
import Sift.Proofs.Document.Validity

/-!
# Which documents are rejected, and for what

Compiling goes through the entries of a document in a fixed order and stops at the first that is not
valid (`errorOf?_compile`). So a document compiles exactly when each of its entries is valid by
itself, and it is rejected for the fault of the first that is not, whatever else it holds.

The equivalences of this module are the other half of those in `Sift.Proofs.Compile.Inversion`: each
says when an entry fails, and with which error.

Main statement: `compile_iff_valid`.
-/

namespace Sift

/-! ## Computations that fail -/

section Except

variable {ε ε' α β : Type}

def errorOf? : Except ε α → Option ε
  | .error e => some e
  | .ok _ => none

theorem errorOf?_eq_some_iff {x : Except ε α} {e : ε} : errorOf? x = some e ↔ x = .error e := by
  cases x <;> simp [errorOf?]

theorem errorOf?_eq_none_iff {x : Except ε α} : errorOf? x = none ↔ ∃ a, x = .ok a := by
  cases x <;> simp [errorOf?]

/-- A computation in two steps fails in the first or, that one done, in the second. -/
theorem bind_eq_error_iff {x : Except ε α} {f : α → Except ε β} {e : ε} :
    (x >>= f) = .error e ↔ x = .error e ∨ ∃ a, x = .ok a ∧ f a = .error e := by
  cases x <;> simp [bind, Except.bind]

theorem map_eq_error_iff {x : Except ε α} {f : α → β} {e : ε} :
    x.map f = .error e ↔ x = .error e := by
  cases x <;> simp [Except.map]

theorem mapError_eq_error_iff {x : Except ε α} {f : ε → ε'} {e' : ε'} :
    x.mapError f = .error e' ↔ ∃ e, x = .error e ∧ f e = e' := by
  cases x <;> simp [Except.mapError]

/-- If what follows fails in the same way for every result, the error of the whole is the first of
the two. -/
theorem errorOf?_bind {x : Except ε α} {f : α → Except ε β} {r : Option ε}
    (h : ∀ a, errorOf? (f a) = r) : errorOf? (x >>= f) = (errorOf? x).or r := by
  cases x with
  | error e => rfl
  | ok a => exact h a

/-- A traversal fails as the first item does that fails. -/
theorem errorOf?_mapM (f : α → Except ε β) (l : List α) :
    errorOf? (l.mapM f) = l.findSome? fun a => errorOf? (f a) := by
  induction l with
  | nil => rfl
  | cons a l ih =>
    rw [List.mapM_cons, List.findSome?_cons]
    cases h : f a with
    | error e => rfl
    | ok b =>
      show errorOf? (l.mapM f >>= fun bs => pure (b :: bs)) = _
      rw [errorOf?_bind (r := none) fun _ => rfl, Option.or_none, ih]
      rfl

end Except

/-- Items that give nothing can be left out of a search. -/
theorem findSome?_filter_of_none {α β : Type} {f : α → Option β} {p : α → Bool}
    (h : ∀ a, p a = false → f a = none) (l : List α) :
    (l.filter p).findSome? f = l.findSome? f := by
  induction l with
  | nil => rfl
  | cons a l ih =>
    cases hp : p a with
    | true => rw [List.filter_cons_of_pos hp, List.findSome?_cons, List.findSome?_cons, ih]
    | false =>
      rw [List.filter_cons_of_neg (by simp [hp]), List.findSome?_cons, h a hp, ih]

/-! ## Operators -/

theorem trimText_eq_iff {raw text : String} :
    Text.trimText raw = text ↔ Text.trim raw.toList = text.toList := by
  unfold Text.trimText
  rw [← String.toList_inj, String.toList_ofList]

/-- An operator is known by its spelling, blanks around it and the case of letters apart. -/
theorem ofText?_eq_some_iff {raw : String} {op : Operator} :
    Operator.ofText? raw = some op ↔ op.IsSpelled raw := by
  unfold Operator.ofText? Operator.IsSpelled
  generalize hcs : Text.trim raw.toList = cs
  simp only [trimText_eq_iff, hcs]
  constructor
  · intro h
    split_ifs at h with h₁ h₂ h₃ h₄ h₅ h₆ h₇ <;> cases h
    · exact h₁
    · simpa using h₂
    · exact h₃
    · exact h₄
    · exact h₅
    · exact h₆
    · exact h₇
  · intro h
    cases op with
    | notEqual => rcases h with rfl | rfl <;> rfl
    | like =>
      -- No other operator is like `like`, so the tests before it fail.
      have hne : ∀ l, Text.eqIgnoreAsciiCase l "like".toList = false → cs ≠ l := by
        rintro l hl rfl
        rw [hl] at h
        cases h
      simp [hne ['='] rfl, hne ['!', '='] rfl, hne ['<', '>'] rfl, hne ['<'] rfl,
        hne ['<', '='] rfl, hne ['>'] rfl, hne ['>', '='] rfl]
      exact h
    | _ => subst h; rfl

theorem meantOperator?_eq_some_iff {c : Condition} {op : Operator} :
    c.meantOperator? = some op ↔ c.Means op := by
  unfold Condition.meantOperator? Condition.Means
  cases c.operator with
  | none => simp [eq_comm]
  | some raw => exact ofText?_eq_some_iff

/-- An entry means one operator. -/
theorem Condition.Means.unique {c : Condition} {op op' : Operator} (h : c.Means op)
    (h' : c.Means op') : op = op' := by
  rw [← meantOperator?_eq_some_iff] at h h'
  exact Option.some.inj (h.symm.trans h')

/-- The only fault of an operator is one that is spelled but not known. -/
theorem operator_eq_error_iff {clause : Clause} {c : Condition} {err : CompileError} :
    Compile.operator clause c = .error err ↔ ∃ raw, c.operator = some raw
      ∧ (∀ op, ¬ Operator.IsSpelled op raw) ∧ err = .unknownOperator clause raw := by
  unfold Compile.operator
  cases c.operator with
  | none => simp
  | some raw =>
    have hnone : Operator.ofText? raw = none ↔ ∀ op, ¬ Operator.IsSpelled op raw := by
      simp only [← ofText?_eq_some_iff, Option.eq_none_iff_forall_ne_some, ne_eq]
    cases h : Operator.ofText? raw with
    | none => simp [← hnone, h, eq_comm]
    | some op => simp [← hnone, h]

/-! ## Values -/

theorem operandText?_isSome_iff (value : Json) :
    value.operandText?.isSome ↔ value.WritesPattern := by
  cases value <;> simp [Json.operandText?, Json.WritesPattern]

/-- A value writes no pattern if it is neither a text nor a number, and the fault names its kind. -/
theorem pattern_eq_error_iff {value : Json} {fault : ValueFault} :
    Compile.pattern value = .error fault
      ↔ ¬ value.WritesPattern ∧ fault = .notPattern value.kind := by
  cases value <;> simp [Compile.pattern, Json.WritesPattern, eq_comm]

/-- A value that may stand behind the operator always compiles. -/
theorem comparisonWith_isOk_iff {field : String} {op : Operator} {value : Json} :
    (∃ x, Compile.comparisonWith field op value = .ok x) ↔ Comparable op value := by
  constructor
  · rintro ⟨x, hx⟩
    rcases comparisonWith_eq_ok_iff.mp hx with ⟨rfl, rfl, -⟩ | ⟨rfl, rfl, -⟩ |
      ⟨rfl, operand, hoperand, -⟩ | ⟨hnull, hop, operand, hoperand, -⟩
    · exact .null (.inl rfl)
    · exact .null (.inr rfl)
    · exact .pattern ((operandText?_isSome_iff value).mp (by simp [hoperand]))
    · exact .scalar hop hnull ((Scalar.ofJson?_isSome_iff value).mp (by simp [hoperand]))
  · intro h
    cases h with
    | null h => rcases h with rfl | rfl <;> exact ⟨_, rfl⟩
    | pattern h =>
      obtain ⟨operand, hoperand⟩ :=
        Option.isSome_iff_exists.mp ((operandText?_isSome_iff value).mpr h)
      exact ⟨_, comparisonWith_eq_ok_iff.mpr (.inr (.inr (.inl ⟨rfl, operand, hoperand, rfl⟩)))⟩
    | scalar hop hnull h =>
      obtain ⟨operand, hoperand⟩ :=
        Option.isSome_iff_exists.mp ((Scalar.ofJson?_isSome_iff value).mpr h)
      exact ⟨_, comparisonWith_eq_ok_iff.mpr
        (.inr (.inr (.inr ⟨hnull, hop, operand, hoperand, rfl⟩)))⟩

/-- A value that may not has exactly one fault. -/
theorem comparisonWith_eq_error_iff {field : String} {op : Operator} {value : Json}
    {fault : ValueFault} :
    Compile.comparisonWith field op value = .error fault ↔ ComparisonFault op value fault := by
  constructor
  · intro h
    unfold Compile.comparisonWith at h
    split at h
    -- A comparison of null with `=` or `!=` does not fail.
    · cases h
    · cases h
    · next hequal hnotEqual =>
      cases h
      exact .nullOrdered ⟨fun h => hequal h, fun h => hnotEqual h⟩
    · next hnull =>
      obtain ⟨hpattern, rfl⟩ := pattern_eq_error_iff.mp (map_eq_error_iff.mp h)
      exact .notPattern hnull hpattern
    · next hnull hlike _ _ =>
      split at h
      · cases h
      · next hscalar =>
        cases h
        -- Null is a scalar, so what is left are arrays and objects.
        refine .notScalar hlike ?_
        rw [Json.IsScalar, ← Scalar.ofJson?_isSome_iff, hscalar]
        simp
  · intro h
    cases h with
    | nullOrdered h => cases op <;> simp_all [Compile.comparisonWith]
    | notPattern hnull h =>
      have hpattern := pattern_eq_error_iff.mpr ⟨h, rfl⟩
      cases value <;> simp_all [Compile.comparisonWith, Except.map]
    | notScalar hop h =>
      rw [Json.IsScalar, ← Scalar.ofJson?_isSome_iff, Option.not_isSome_iff_eq_none] at h
      unfold Compile.comparisonWith
      split <;> simp_all [Scalar.ofJson?]

/-- A day or a pattern behind the operator always compiles. -/
theorem dateOperand_isOk_iff {op : Operator} {value : Json} :
    (∃ x, Compile.dateOperand op value = .ok x) ↔ ComparableDay op value := by
  constructor
  · rintro ⟨x, hx⟩
    rcases dateOperand_eq_ok_iff.mp hx with ⟨rfl, operand, hoperand, -⟩ |
      ⟨hop, s, day, rfl, hday, -⟩
    · exact .pattern ((operandText?_isSome_iff value).mp (by simp [hoperand]))
    · exact .day hop hday
  · intro h
    cases h with
    | pattern h =>
      obtain ⟨operand, hoperand⟩ :=
        Option.isSome_iff_exists.mp ((operandText?_isSome_iff value).mpr h)
      exact ⟨_, dateOperand_eq_ok_iff.mpr (.inl ⟨rfl, operand, hoperand, rfl⟩)⟩
    | day hop h => exact ⟨_, dateOperand_eq_ok_iff.mpr (.inr ⟨hop, _, _, rfl, h, rfl⟩)⟩

/-- Anything else has exactly one fault. -/
theorem dateOperand_eq_error_iff {op : Operator} {value : Json} {fault : ValueFault} :
    Compile.dateOperand op value = .error fault ↔ DayFault op value fault := by
  constructor
  · intro h
    unfold Compile.dateOperand at h
    split at h
    · obtain ⟨hpattern, rfl⟩ := pattern_eq_error_iff.mp (map_eq_error_iff.mp h)
      exact .notPattern hpattern
    · next s hlike =>
      split at h
      · cases h
      · next hday =>
        cases h
        refine .notDate hlike ?_
        rintro _ day hs hsome
        cases hs
        rw [hday] at hsome
        cases hsome
    · next hlike hstring =>
      cases h
      exact .notDate hlike fun s day hs => absurd hs (hstring s)
  · intro h
    cases h with
    | notPattern h => exact map_eq_error_iff.mpr (pattern_eq_error_iff.mpr ⟨h, rfl⟩)
    | notDate hop h =>
      unfold Compile.dateOperand
      split
      · exact absurd rfl hop
      · next s _ =>
        split
        · next day hday => exact absurd hday (h s day rfl)
        · rfl
      · rfl

/-! ## Single entries -/

namespace Compile

variable {allowed : FieldSet}

/-- An unknown column is reported with its clause and its own name. -/
theorem checkField_eq_error_iff {clause : Clause} {field : String} {err : CompileError} :
    checkField allowed clause field = .error err
      ↔ field ∉ allowed ∧ err = .unknownField clause field := by
  unfold checkField
  split
  · next h => simp [FieldSet.contains_iff.mp h]
  · next h => simp [mt FieldSet.contains_iff.mpr h, eq_comm]

/-- What compares fails at its column, at its operator, or at what comes after them. -/
theorem checked_eq_error_iff {β : Type} {clause : Clause} {c : Condition}
    {k : String → Operator → Except CompileError β} {err : CompileError} :
    (checkField allowed clause c.field >>= fun field => operator clause c >>= k field) = .error err
      ↔ (c.field ∉ allowed ∧ err = .unknownField clause c.field)
        ∨ (c.field ∈ allowed ∧ ∃ raw, c.operator = some raw
            ∧ (∀ op, ¬ Operator.IsSpelled op raw) ∧ err = .unknownOperator clause raw)
        ∨ (c.field ∈ allowed ∧ ∃ op, c.Means op ∧ k c.field op = .error err) := by
  rw [bind_eq_error_iff, checkField_eq_error_iff]
  apply or_congr_right
  simp only [checkField_eq_ok_iff, ← operator_eq_error_iff, ← meantOperator?_eq_some_iff,
    ← @operator_eq_ok_iff clause]
  constructor
  · rintro ⟨field, ⟨hmem, rfl⟩, h⟩
    exact (bind_eq_error_iff.mp h).imp (⟨hmem, ·⟩) (⟨hmem, ·⟩)
  · rintro (⟨hmem, h⟩ | ⟨hmem, h⟩)
    · exact ⟨c.field, ⟨hmem, rfl⟩, bind_eq_error_iff.mpr (.inl h)⟩
    · exact ⟨c.field, ⟨hmem, rfl⟩, bind_eq_error_iff.mpr (.inr h)⟩

/-- The faults are found in the order of the steps: column, operator, value. -/
theorem comparison_eq_error_iff {c : Condition} {err : CompileError} :
    comparison allowed c = .error err ↔ (Entry.compare c).Fault allowed err := by
  refine checked_eq_error_iff.trans ⟨?_, ?_⟩
  · rintro (⟨hmem, rfl⟩ | ⟨hmem, raw, hraw, hno, rfl⟩ | ⟨hmem, op, hop, h⟩)
    · exact .field hmem
    · exact .operator hmem rfl hraw hno
    · obtain ⟨fault, hfault, rfl⟩ := mapError_eq_error_iff.mp h
      exact .value hmem hop (comparisonWith_eq_error_iff.mp hfault)
  · intro h
    cases h with
    | field hmem => exact .inl ⟨hmem, rfl⟩
    | operator hmem hc hraw hno => cases hc; exact .inr (.inl ⟨hmem, _, hraw, hno, rfl⟩)
    | value hmem hop hfault =>
      refine .inr (.inr ⟨hmem, _, hop, ?_⟩)
      exact mapError_eq_error_iff.mpr ⟨_, comparisonWith_eq_error_iff.mpr hfault, rfl⟩

theorem datePredicate_eq_error_iff {c : Condition} {err : CompileError} :
    datePredicate allowed c = .error err ↔ (Entry.date c).Fault allowed err := by
  refine checked_eq_error_iff.trans ⟨?_, ?_⟩
  · rintro (⟨hmem, rfl⟩ | ⟨hmem, raw, hraw, hno, rfl⟩ | ⟨hmem, op, hop, h⟩)
    · exact .field hmem
    · exact .operator hmem rfl hraw hno
    -- Once the operand is read, nothing more can fail.
    rcases bind_eq_error_iff.mp h with h | ⟨value, -, h⟩
    · obtain ⟨fault, hfault, rfl⟩ := mapError_eq_error_iff.mp h
      exact .day hmem hop (dateOperand_eq_error_iff.mp hfault)
    · cases h
  · intro h
    cases h with
    | field hmem => exact .inl ⟨hmem, rfl⟩
    | operator hmem hc hraw hno => cases hc; exact .inr (.inl ⟨hmem, _, hraw, hno, rfl⟩)
    | day hmem hop hfault =>
      refine .inr (.inr ⟨hmem, _, hop, bind_eq_error_iff.mpr (.inl ?_)⟩)
      exact mapError_eq_error_iff.mpr ⟨_, dateOperand_eq_error_iff.mpr hfault, rfl⟩

/-- Of bounds, only the column can be at fault. -/
theorem bounded_eq_error_iff {b : String × Json} {err : CompileError} :
    bounded allowed b = .error err ↔ b.1 ∉ allowed ∧ err = .unknownField .between b.1 := by
  unfold bounded
  rw [bind_eq_error_iff, checkField_eq_error_iff]
  constructor
  · rintro (h | ⟨field, -, h⟩)
    · exact h
    -- Bad bounds do not fail.
    · cases hb : bounds b.2 <;> rw [hb] at h <;> cases h
  · exact .inl

end Compile

namespace Entry

variable {allowed : FieldSet}

/-- What the entry is rejected for, if it is. -/
def fault? (allowed : FieldSet) : Entry → Option CompileError
  | .compare c => errorOf? (Compile.comparison allowed c)
  | .isNull field => errorOf? (Compile.nullCheck allowed .isNull true field)
  | .notNull field => errorOf? (Compile.nullCheck allowed .notNull false field)
  | .date c => errorOf? (Compile.datePredicate allowed c)
  | .between b => errorOf? (Compile.bounded allowed b)
  | .order o => errorOf? (Compile.sortKey allowed o)

/-- The entries of the clauses that only name a column. -/
theorem fault_iff_of_condition?_eq_none {e : Entry} (h : e.condition? = none) {err : CompileError} :
    e.Fault allowed err ↔ e.field ∉ allowed ∧ err = .unknownField e.clause e.field := by
  constructor
  · intro hfault
    cases hfault with
    | field hfield => exact ⟨hfield, rfl⟩
    | operator hfield hc => rw [h] at hc; cases hc
    | value => cases h
    | day => cases h
  · rintro ⟨hfield, rfl⟩
    exact .field hfield

theorem valid_iff_of_condition?_eq_none {e : Entry} (h : e.condition? = none) :
    e.Valid allowed ↔ e.field ∈ allowed := by
  cases e with
  | compare c => cases h
  | date c => cases h
  | isNull _ | notNull _ | between _ | order _ => exact iff_of_eq (and_true _)

/-- The fault that an entry is found to have is the one its value and column are read to have. -/
theorem fault?_eq_some_iff {e : Entry} {err : CompileError} :
    e.fault? allowed = some err ↔ e.Fault allowed err := by
  cases e with
  | compare c => exact errorOf?_eq_some_iff.trans Compile.comparison_eq_error_iff
  | date c => exact errorOf?_eq_some_iff.trans Compile.datePredicate_eq_error_iff
  | between b =>
    rw [fault_iff_of_condition?_eq_none rfl]
    exact errorOf?_eq_some_iff.trans Compile.bounded_eq_error_iff
  | isNull field | notNull field | order o =>
    rw [fault_iff_of_condition?_eq_none rfl]
    exact errorOf?_eq_some_iff.trans (map_eq_error_iff.trans Compile.checkField_eq_error_iff)

/-- An entry without a fault is a valid one. -/
theorem fault?_eq_none_iff {e : Entry} : e.fault? allowed = none ↔ e.Valid allowed := by
  cases e with
  | compare c =>
    refine errorOf?_eq_none_iff.trans ?_
    simp only [Compile.comparison_eq_ok_iff, operator_eq_ok_iff, meantOperator?_eq_some_iff]
    constructor
    · rintro ⟨x, hmem, op, hop, hx⟩
      exact ⟨hmem, op, hop, comparisonWith_isOk_iff.mp ⟨x, hx⟩⟩
    · rintro ⟨hmem, op, hop, h⟩
      obtain ⟨x, hx⟩ := comparisonWith_isOk_iff.mpr h
      exact ⟨x, hmem, op, hop, hx⟩
  | date c =>
    refine errorOf?_eq_none_iff.trans ?_
    simp only [Compile.datePredicate_eq_ok_iff, operator_eq_ok_iff, meantOperator?_eq_some_iff]
    constructor
    · rintro ⟨x, hmem, op, value, hop, hvalue, -⟩
      exact ⟨hmem, op, hop, dateOperand_isOk_iff.mp ⟨value, hvalue⟩⟩
    · rintro ⟨hmem, op, hop, h⟩
      obtain ⟨value, hvalue⟩ := dateOperand_isOk_iff.mpr h
      exact ⟨_, hmem, op, value, hop, hvalue, rfl⟩
  -- In the other clauses there is nothing but the column to be at fault.
  | isNull _ | notNull _ | between _ | order _ =>
    rw [Option.eq_none_iff_forall_ne_some, valid_iff_of_condition?_eq_none rfl]
    simp only [ne_eq, fault?_eq_some_iff]
    constructor
    · intro h
      by_contra hmem
      exact h _ (.field hmem)
    · intro hmem err hfault
      exact ((fault_iff_of_condition?_eq_none rfl).mp hfault).1 hmem

end Entry

/-! ## Whole documents -/

/-- Compiling a document fails as the first of its entries does that is not valid. -/
theorem errorOf?_compile (d : Document) (allowed : FieldSet) :
    errorOf? (d.compile allowed) = d.inOrder.findSome? (Entry.fault? allowed) := by
  -- No later traversal depends on what an earlier one gave, so their errors are tried in turn.
  have htests : errorOf? (d.compileTests allowed)
      = (errorOf? (d.conditions.mapM (Compile.comparison allowed))).or
        ((errorOf? (d.nulls.mapM (Compile.nullCheck allowed .isNull true))).or
        ((errorOf? (d.notNulls.mapM (Compile.nullCheck allowed .notNull false))).or
        ((errorOf? (d.dates.mapM (Compile.datePredicate allowed))).or none))) :=
    errorOf?_bind fun _ => errorOf?_bind fun _ => errorOf?_bind fun _ => errorOf?_bind fun _ => rfl
  have hcompile : errorOf? (d.compile allowed)
      = (errorOf? (d.compileTests allowed)).or
        ((errorOf? (d.bounds.mapM (Compile.bounded allowed))).or
        ((errorOf? (d.order.mapM (Compile.sortKey allowed))).or none)) :=
    errorOf?_bind fun _ => errorOf?_bind fun _ => errorOf?_bind fun _ => rfl
  rw [hcompile, htests]
  unfold Document.inOrder
  simp only [errorOf?_mapM, List.findSome?_append, List.findSome?_map, Option.or_assoc,
    Option.or_none]
  rfl

instance (allowed : FieldSet) (e : Entry) : Decidable (e.Valid allowed) :=
  decidable_of_iff (e.fault? allowed = none) Entry.fault?_eq_none_iff

/-- **A document compiles exactly when each of its entries is valid**, and otherwise it is rejected
for the fault of the first that is not. Two documents with the same invalid entries in the same
order get the same verdict, whatever valid entries stand around them. -/
theorem compile_iff_valid (d : Document) (allowed : FieldSet) :
    ((∃ p, d.compile allowed = .ok p) ↔ ∀ e ∈ d.inOrder, e.Valid allowed)
      ∧ (∀ err, d.compile allowed = .error err ↔ ∃ before e after,
          d.inOrder = before ++ e :: after ∧ (∀ x ∈ before, x.Valid allowed)
            ∧ e.Fault allowed err)
      ∧ ∀ d' : Document, (d'.inOrder.filter fun e => ¬ e.Valid allowed)
            = (d.inOrder.filter fun e => ¬ e.Valid allowed) →
          ∀ err, d'.compile allowed = .error err ↔ d.compile allowed = .error err := by
  refine ⟨?_, ?_, ?_⟩
  · rw [← errorOf?_eq_none_iff, errorOf?_compile, List.findSome?_eq_none_iff]
    simp only [Entry.fault?_eq_none_iff]
  · intro err
    rw [← errorOf?_eq_some_iff, errorOf?_compile, List.findSome?_eq_some_iff]
    simp only [Entry.fault?_eq_none_iff, Entry.fault?_eq_some_iff]
    constructor
    · rintro ⟨before, e, after, hd, hfault, hbefore⟩
      exact ⟨before, e, after, hd, hbefore, hfault⟩
    · rintro ⟨before, e, after, hd, hbefore, hfault⟩
      exact ⟨before, e, after, hd, hfault, hbefore⟩
  · intro d' hinvalid err
    -- Valid entries can be left out of the search for the first fault.
    have hskip : ∀ e : Entry, decide (¬ e.Valid allowed) = false → e.fault? allowed = none := by
      intro e he
      rw [Entry.fault?_eq_none_iff]
      simpa using he
    rw [← errorOf?_eq_some_iff, ← errorOf?_eq_some_iff, errorOf?_compile, errorOf?_compile,
      ← findSome?_filter_of_none hskip, hinvalid, findSome?_filter_of_none hskip]

/-! ### A document with two faults -/

namespace Sample

/-- An unknown operator and, in a later clause, a column that no guest may be searched by. -/
def doubtful : Document :=
  { Document.empty with
    conditions := [⟨"name", none, .string "Ann"⟩, ⟨"age", some "~", .number (.integer 3)⟩]
    nulls := ["left", "password"] }

def hopeless : Document :=
  { Document.empty with
    conditions := [⟨"age", some "~", .number (.integer 3)⟩]
    nulls := ["password"] }

theorem doubtful_rejected :
    doubtful.compile guests.queryable = .error (.unknownOperator .compare "~")
      ∧ hopeless.compile guests.queryable = .error (.unknownOperator .compare "~") := by
  obtain ⟨-, hfirst, hsame⟩ := compile_iff_valid doubtful guests.queryable
  have herror : doubtful.compile guests.queryable = .error (.unknownOperator .compare "~") := by
    refine (hfirst _).mpr ⟨[.compare ⟨"name", none, .string "Ann"⟩], _, _, rfl, ?_, ?_⟩
    · rw [List.forall_mem_singleton]
      decide +kernel
    · have hno : Operator.ofText? "~" = none := by decide +kernel
      refine .operator (by decide) rfl rfl fun op hop => ?_
      rw [← ofText?_eq_some_iff, hno] at hop
      cases hop
  exact ⟨herror, (hsame hopeless rfl _).mpr herror⟩

end Sample

end Sift

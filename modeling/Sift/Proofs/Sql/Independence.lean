import Sift.Proofs.Compile.Meaning
import Sift.Sql.Render

/-!
# Operand values never reach the text of a statement

Two queries have the same shape if their plans differ in nothing but the values of their operands.
The kind of an operand belongs to the shape, since null is written as a word and only a text is
cast. Queries of the same shape have the same text, so what a client compares with is never part of
the statement that the database reads.

Where two operands bind different values, their pieces agree once the values are blanked out
(`blanks`). The proof carries that from operands to tests to whole statements.

Main statement: `text_eq_of_sameShape`.
-/

namespace Sift

open List (Forall₂)

/-! ## Shapes -/

/-- What the text of a statement may depend on in an operand. -/
inductive ScalarKind where
  | null
  | text
  | other
  deriving DecidableEq

def Scalar.kind : Scalar → ScalarKind
  | .null => .null
  | .text _ => .text
  | .bool _ | .integer _ | .decimal _ => .other

/-- The operands are both days or both patterns. -/
def DateOperand.SameKind : DateOperand → DateOperand → Prop
  | .day _, .day _ | .pattern _, .pattern _ => True
  | _, _ => False

structure Predicate.SameShape (p p' : Predicate) : Prop where
  field : p.field = p'.field
  operator : p.operator = p'.operator
  value : p.value.kind = p'.value.kind

structure DatePredicate.SameShape (p p' : DatePredicate) : Prop where
  field : p.field = p'.field
  operator : p.operator = p'.operator
  value : p.value.SameKind p'.value

structure RangeCheck.SameShape (r r' : RangeCheck) : Prop where
  field : r.field = r'.field
  low : r.low.kind = r'.low.kind
  high : r.high.kind = r'.high.kind

/-- The queries differ in nothing that is applied to rows but the values of operands. -/
structure Query.SameShape (q q' : Query) : Prop where
  entity : q.entity = q'.entity
  sort : q.sort = q'.sort
  predicates : Forall₂ Predicate.SameShape q.plan.predicates q'.plan.predicates
  datePredicates : Forall₂ DatePredicate.SameShape q.plan.datePredicates q'.plan.datePredicates
  nullChecks : q.plan.nullChecks = q'.plan.nullChecks
  ranges : Forall₂ RangeCheck.SameShape q.plan.ranges q'.plan.ranges

namespace Sql

/-! ## Pieces without their values -/

def blanks (pieces : List Piece) : List (Option String) := pieces.map Piece.blank

@[simp] theorem blanks_cons (x : Piece) (pieces : List Piece) :
    blanks (x :: pieces) = x.blank :: blanks pieces := rfl

@[simp] theorem blanks_append (a b : List Piece) : blanks (a ++ b) = blanks a ++ blanks b :=
  List.map_append

/-- The parameters can be counted by the blanks that they leave. -/
theorem length_paramsOf (pieces : List Piece) :
    (paramsOf pieces).length = (blanks pieces).count none := by
  induction pieces with
  | nil => rfl
  | cons x pieces ih =>
    cases x with
    | text s =>
      show (paramsOf pieces).length = (some s :: blanks pieces).count none
      rw [ih, List.count_cons_of_ne (by simp)]
    | param p =>
      show (paramsOf pieces).length + 1 = (none :: blanks pieces).count none
      rw [ih, List.count_cons_self]

theorem blanks_join_congr {separator : String} {parts parts' : List (List Piece)}
    (h : parts.map blanks = parts'.map blanks) :
    blanks (join separator parts) = blanks (join separator parts') := by
  induction parts generalizing parts' with
  | nil =>
    cases parts' with
    | nil => rfl
    | cons part' rest' => cases h
  | cons part rest ih =>
    cases parts' with
    | nil => cases h
    | cons part' rest' =>
      obtain ⟨hpart, hrest⟩ := List.cons.inj h
      have hjoin := ih hrest
      -- The last part has no separator after it, so it is a case of its own.
      cases rest with
      | nil =>
        obtain rfl : rest' = [] := by simpa using hrest.symm
        exact hpart
      | cons second rest =>
        cases rest' with
        | nil => cases hrest
        | cons second' rest' =>
          show blanks (part ++ .text separator :: join separator (second :: rest))
            = blanks (part' ++ .text separator :: join separator (second' :: rest'))
          rw [blanks_append, blanks_append, blanks_cons, blanks_cons, hpart, hjoin]

/-! ## Operands and tests -/

variable {types : ColumnTypes}

theorem blanks_plain {s s' : Scalar} (h : s.kind = s'.kind) :
    blanks (Operand.plain s).pieces = blanks (Operand.plain s').pieces := by
  cases s <;> cases s' <;> first | rfl | cases h

/-- What is rendered for an operand depends on its kind only. -/
theorem blanks_against {field : String} {s s' : Scalar} (h : s.kind = s'.kind) :
    blanks (Operand.against types field s).pieces
      = blanks (Operand.against types field s').pieces := by
  cases s with
  | text s =>
    cases s' with
    | text s' =>
      -- Whether a text is cast, and to what, only depends on the column.
      unfold Operand.against
      cases types.castTarget? field <;> rfl
    | _ => cases h
  | _ =>
    cases s' with
    | text s' => cases h
    | _ => exact blanks_plain h

/-- Predicates of the same shape are rendered alike but for their parameters. -/
theorem blanks_ofPredicate {p p' : Predicate} (h : p.SameShape p') :
    blanks (Test.ofPredicate types p).pieces = blanks (Test.ofPredicate types p').pieces := by
  obtain ⟨field, op, value⟩ := p
  obtain ⟨field', op', value'⟩ := p'
  obtain ⟨rfl, rfl, hvalue⟩ := h
  cases op with
  | like => simpa [Test.ofPredicate, Test.pieces] using blanks_plain hvalue
  | _ => simpa [Test.ofPredicate, Test.pieces] using blanks_against hvalue

theorem blanks_ofDatePredicate {p p' : DatePredicate} (h : p.SameShape p') :
    blanks (Test.ofDatePredicate p).pieces = blanks (Test.ofDatePredicate p').pieces := by
  obtain ⟨field, op, value⟩ := p
  obtain ⟨field', op', value'⟩ := p'
  obtain ⟨rfl, rfl, hvalue⟩ := h
  cases value <;> cases value' <;> first | rfl | cases hvalue

theorem blanks_ofRange {r r' : RangeCheck} (h : r.SameShape r') :
    blanks (Between.ofRange types r).pieces = blanks (Between.ofRange types r').pieces := by
  obtain ⟨field, low, high⟩ := r
  obtain ⟨field', low', high'⟩ := r'
  obtain ⟨rfl, hlow, hhigh⟩ := h
  simp only [Between.ofRange, Between.pieces, blanks_append, blanks_cons, blanks_against hlow,
    blanks_against hhigh]

theorem blanks_anyOf {l l' : List RangeCheck} (h : Forall₂ RangeCheck.SameShape l l') :
    blanks (Test.anyOf (l.map (Between.ofRange types))).pieces
      = blanks (Test.anyOf (l'.map (Between.ofRange types))).pieces := by
  have hparts : (l.map fun r => blanks (Between.ofRange types r).pieces)
      = l'.map fun r => blanks (Between.ofRange types r).pieces :=
    (map_eq_map_of_forall₂ h fun hr => (blanks_ofRange hr).symm).symm
  have hjoin : blanks (join " OR " ((l.map (Between.ofRange types)).map Between.pieces))
      = blanks (join " OR " ((l'.map (Between.ofRange types)).map Between.pieces)) := by
    apply blanks_join_congr
    simpa only [List.map_map, Function.comp_def] using hparts
  simp only [Test.pieces, blanks_cons, blanks_append, hjoin]

/-! ## Statements -/

/-- Queries of the same shape have conditions that differ in their parameters only. -/
theorem blanks_condition {q q' : Query} (h : q.SameShape q') :
    blanks (condition types q) = blanks (condition types q') := by
  apply blanks_join_congr
  have hpredicates : (q.plan.predicates.map fun p => blanks (Test.ofPredicate types p).pieces)
      = q'.plan.predicates.map fun p => blanks (Test.ofPredicate types p).pieces :=
    (map_eq_map_of_forall₂ h.predicates fun hp => (blanks_ofPredicate hp).symm).symm
  have hdates : (q.plan.datePredicates.map fun p => blanks (Test.ofDatePredicate p).pieces)
      = q'.plan.datePredicates.map fun p => blanks (Test.ofDatePredicate p).pieces :=
    (map_eq_map_of_forall₂ h.datePredicates fun hp => (blanks_ofDatePredicate hp).symm).symm
  have hempty : q.plan.ranges.isEmpty = q'.plan.ranges.isEmpty := by
    rw [Bool.eq_iff_iff, List.isEmpty_iff_length_eq_zero, List.isEmpty_iff_length_eq_zero,
      h.ranges.length_eq]
  unfold tests
  simp only [List.cons_append, List.map_cons, List.map_append, List.map_map, Function.comp_def,
    hpredicates, hdates, h.entity, h.nullChecks, hempty]
  congr 2
  split
  · rfl
  · simp only [List.map_cons, List.map_nil, blanks_anyOf h.ranges]

theorem blanks_countPieces {q q' : Query} (h : q.SameShape q') :
    blanks (countPieces types q) = blanks (countPieces types q') := by
  simp only [countPieces, blanks_cons, blanks_condition h, h.entity]

/-- The window is bound as well, so it does not show in the text. -/
theorem blanks_selectPieces {q q' : Query} (h : q.SameShape q') (w w' : Window) :
    blanks (selectPieces types q w) = blanks (selectPieces types q' w') := by
  simp only [selectPieces, List.cons_append, blanks_cons, blanks_append, blanks_condition h,
    h.entity, h.sort]
  rfl

/-- **Operand values never reach the text of a statement.** Queries of the same shape have the same
statements but for the values bound to their placeholders, of which they have equally many; nor does
the slice that is wanted show in the text. -/
theorem text_eq_of_sameShape {q q' : Query} (h : q.SameShape q') (types : ColumnTypes)
    (w w' : Window) :
    (renderCount types q).text = (renderCount types q').text
      ∧ (renderCount types q).params.length = (renderCount types q').params.length
      ∧ (renderSelect types q w).text = (renderSelect types q' w').text
      ∧ (renderSelect types q w).params.length = (renderSelect types q' w').params.length := by
  have hcount : blanks (countPieces types q) = blanks (countPieces types q') := blanks_countPieces h
  have hselect : blanks (selectPieces types q w) = blanks (selectPieces types q' w') :=
    blanks_selectPieces h w w'
  refine ⟨text_eq_of_blank_eq hcount, ?_, text_eq_of_blank_eq hselect, ?_⟩
  · show (paramsOf _).length = (paramsOf _).length
    rw [length_paramsOf, length_paramsOf, hcount]
  · show (paramsOf _).length = (paramsOf _).length
    rw [length_paramsOf, length_paramsOf, hselect]

end Sql

/-! ### A value that looks like SQL -/

namespace Sample

/-- The guests of a name who joined on a day or within a range. -/
def guestsNamed (name : String) (day : Date) (low high : String) : Query :=
  .resolve guests
    { Plan.empty with
      predicates := [⟨"name", .equal, .text name⟩, ⟨"age", .notEqual, .null⟩]
      datePredicates := [⟨"joined", .less, .day day⟩]
      ranges := [⟨"joined", .text low, .text high⟩] }

theorem guestsNamed_text_eq :
    let q := guestsNamed "Ann" ⟨2024, 1, 31, by decide⟩ "2024-01-01" "2024-02-01"
    let q' := guestsNamed "'; DROP TABLE guests; --" ⟨1999, 12, 31, by decide⟩ "$9" "\""
    q.SameShape q'
      ∧ (Sql.renderSelect (.ofList [("joined", "timestamp")]) q ⟨0, 10⟩).text
        = (Sql.renderSelect (.ofList [("joined", "timestamp")]) q' ⟨20, 5⟩).text := by
  intro q q'
  have h : q.SameShape q' := by
    refine ⟨rfl, rfl, ?_, ?_, rfl, ?_⟩
    · exact .cons ⟨rfl, rfl, rfl⟩ (.cons ⟨rfl, rfl, rfl⟩ .nil)
    · exact .cons ⟨rfl, rfl, trivial⟩ .nil
    · exact .cons ⟨rfl, rfl, rfl⟩ .nil
  exact ⟨h, (Sql.text_eq_of_sameShape h _ _ _).2.2.1⟩

end Sample

end Sift

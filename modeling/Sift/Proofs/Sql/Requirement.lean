import Sift.Proofs.Sql.Spelling

/-!
# What a query asks of a row

A query is a formula of requirements, each about one column: that the primary key is not null, and
the parts of its plan in their order, of which the ranges form one disjunction. In memory this
formula decides which rows are selected (`eval_formula`). In SQL every requirement has one test
(`Requirement.inSql`), and the values that the tests compare with are bound in the order in which
the formula names them (`paramsOf_condition`).

Main statements: `eval_formula`, `atoms_formula` and `paramsOf_condition`.
-/

namespace Sift

open List (Forall₂)

/-! ## The formula of a query -/

/-- What a query asks of a row, one thing at a time. -/
inductive Requirement where
  /-- The primary key is not null. -/
  | key (column : String)
  | predicate (p : Predicate)
  | date (p : DatePredicate)
  | nullCheck (c : NullCheck)
  | range (r : RangeCheck)

def Requirement.holds (row : Json) : Requirement → Bool
  | .key column => !isNullColumn row column
  | .predicate p => p.holds row
  | .date p => p.holds row
  | .nullCheck c => c.holds row
  | .range r => r.holds row

namespace Query

/-- What a query asks besides the primary key. The ranges, if there are any, are one condition. -/
def restrictions (q : Query) : List (Formula Requirement) :=
  q.plan.predicates.map (fun p => .atom (.predicate p))
    ++ q.plan.datePredicates.map (fun p => .atom (.date p))
    ++ q.plan.nullChecks.map (fun c => .atom (.nullCheck c))
    ++ (Formula.chain? .or (q.plan.ranges.map fun r => .atom (.range r))).toList

def formula (q : Query) : Formula Requirement :=
  .chain .and (.atom (.key q.entity.primaryKey)) q.restrictions

/-- In memory, the formula decides about the row. -/
theorem eval_formula (q : Query) (row : Json) : q.formula.eval (·.holds row) = q.selects row := by
  have hranges : (Formula.chain? .or (q.plan.ranges.map fun r => .atom (.range r))).toList.all
      (·.eval (Requirement.holds row)) = q.plan.inRanges row := by
    unfold Plan.inRanges
    cases q.plan.ranges with
    | nil => rfl
    | cons r rs =>
      simp [Formula.chain?, Formula.eval_chain_or, Formula.eval, Requirement.holds,
        Function.comp_def]
  rw [formula, Formula.eval_chain_and, restrictions]
  simp only [List.all_append, List.all_map, hranges, Function.comp_def, Formula.eval]
  rfl

theorem atoms_ranges (rs : List RangeCheck) :
    (Formula.chain? .or (rs.map fun r => .atom (.range r))).toList.flatMap Formula.atoms
      = rs.map Requirement.range := by
  cases rs with
  | nil => rfl
  | cons r rs =>
    rw [List.map_cons, Formula.chain?, Option.toList_some, List.flatMap_singleton,
      Formula.atoms_chain fun _ _ => rfl, List.flatMap_map]
    show Requirement.range r :: rs.flatMap (fun r => [Requirement.range r]) = _
    rw [← List.map_eq_flatMap, List.map_cons]

/-- The requirements of a query, in order. -/
theorem atoms_formula (q : Query) :
    q.formula.atoms = .key q.entity.primaryKey :: (q.plan.predicates.map .predicate
      ++ q.plan.datePredicates.map .date ++ q.plan.nullChecks.map .nullCheck
      ++ q.plan.ranges.map .range) := by
  rw [formula, Formula.atoms_chain fun _ _ => rfl, restrictions]
  simp only [List.flatMap_append, List.flatMap_map, Formula.atoms, atoms_ranges,
    ← List.map_eq_flatMap]
  rfl

end Query

/-! ## Requirements as tests -/

namespace Sql

def Operand.term : Operand → Term
  | .null => .null
  | .bound p => .param p
  | .cast p type => .cast (.param p) (typeTokens type)

def dayTerm (field : String) : Term := .cast (.column field) [.word "date"]

end Sql

namespace Requirement

open Sql

def inSql (types : ColumnTypes) : Requirement → Atom
  | .key column => .notNull (.column column)
  | .predicate ⟨field, .like, value⟩ =>
    .like (.cast (.column field) [.word "text"]) (Operand.plain value).term
  | .predicate ⟨field, op, value⟩ =>
    .compare op (.column field) (Operand.against types field value).term
  | .date ⟨field, op, .day day⟩ => .compare op (dayTerm field) (.param (.date day))
  | .date ⟨field, _, .pattern pattern⟩ =>
    .like (.cast (dayTerm field) [.word "text"]) (.param (.text pattern))
  | .nullCheck ⟨field, isNull⟩ =>
    if isNull then .isNull (.column field) else .notNull (.column field)
  | .range ⟨field, low, high⟩ =>
    .between (.column field) (Operand.against types field low).term
      (Operand.against types field high).term

def params : Requirement → List Param
  | .key _ | .nullCheck _ => []
  | .predicate p => (param? p.value).toList
  | .date ⟨_, _, .day day⟩ => [.date day]
  | .date ⟨_, _, .pattern pattern⟩ => [.text pattern]
  | .range r => (param? r.low).toList ++ (param? r.high).toList

end Requirement

namespace Sql

variable {types : ColumnTypes}

/-! ## Values in the order of their placeholders -/

theorem paramsOf_plain (s : Scalar) : paramsOf (Operand.plain s).pieces = (param? s).toList := by
  cases s <;> rfl

/-- A cast does not change which values are bound. -/
theorem paramsOf_against (field : String) (s : Scalar) :
    paramsOf (Operand.against types field s).pieces = (param? s).toList := by
  cases s with
  | text s =>
    simp only [Operand.against]
    cases types.castTarget? field <;> rfl
  | _ => rfl

theorem paramsOf_join (separator : String) (parts : List (List Piece)) :
    paramsOf (join separator parts) = parts.flatMap paramsOf := by
  induction parts with
  | nil => rfl
  | cons part parts ih =>
    cases parts with
    | nil => simp [join]
    | cons second parts =>
      rw [List.flatMap_cons, ← ih, join, paramsOf_append, paramsOf_text]
      simp

theorem paramsOf_predicate (p : Predicate) :
    paramsOf (Test.ofPredicate types p).pieces = (Requirement.predicate p).params := by
  obtain ⟨field, op, value⟩ := p
  cases op with
  | like => exact paramsOf_plain value
  | _ => exact paramsOf_against field value

theorem paramsOf_date (p : DatePredicate) :
    paramsOf (Test.ofDatePredicate p).pieces = (Requirement.date p).params := by
  obtain ⟨field, op, value⟩ := p
  cases value <;> rfl

theorem paramsOf_nullCheck (c : NullCheck) :
    paramsOf (Test.ofNullCheck c).pieces = (Requirement.nullCheck c).params := by
  obtain ⟨field, isNull⟩ := c
  cases isNull <;> rfl

theorem paramsOf_range (r : RangeCheck) :
    paramsOf (Between.ofRange types r).pieces = (Requirement.range r).params := by
  rw [Between.ofRange, Between.pieces, List.cons_append, paramsOf_text, paramsOf_append,
    paramsOf_text, paramsOf_against, paramsOf_against]
  rfl

theorem paramsOf_ranges (rs : List RangeCheck) :
    paramsOf (Test.anyOf (rs.map (Between.ofRange types))).pieces
      = rs.flatMap fun r => (Requirement.range r).params := by
  rw [Test.pieces, List.cons_append, paramsOf_text, paramsOf_append, paramsOf_join, List.map_map,
    List.flatMap_map]
  simp only [Function.comp_apply, paramsOf_range]
  exact List.append_nil _

/-- The parameters of a condition are those of the atoms of the formula, in their order. -/
theorem paramsOf_condition (q : Query) :
    paramsOf (condition types q) = q.formula.atoms.flatMap Requirement.params := by
  have hranges : (if q.plan.ranges.isEmpty then []
      else [Test.anyOf (q.plan.ranges.map (Between.ofRange types))]).flatMap (paramsOf ·.pieces)
      = q.plan.ranges.flatMap fun r => (Requirement.range r).params := by
    cases q.plan.ranges with
    | nil => rfl
    | cons r rs => simpa using paramsOf_ranges (r :: rs)
  rw [condition, paramsOf_join, List.flatMap_map, tests, q.atoms_formula]
  simp only [List.flatMap_append, List.cons_append, List.flatMap_cons, List.flatMap_map, hranges,
    paramsOf_predicate, paramsOf_date, paramsOf_nullCheck]
  rfl

end Sql

end Sift

import Sift.Query
import Sift.Sql.Names
import Sift.Sql.Statement

/-!
# Conditions in SQL

The condition under which a query selects a row, as a conjunction of tests. A test knows what it
compares; its pieces are the text and the parameters of one conjunct.

A text operand is bound as text, which the database does not compare with other types, so it is cast
to the type of the column where that is known. An absent operand is written `NULL`, and nothing is
bound for it.
-/

namespace Sift.Sql

inductive Operand where
  | null
  | bound (p : Param)
  | cast (p : Param) (type : String)
  deriving DecidableEq

def param? : Scalar → Option Param
  | .null => none
  | .bool b => some (.bool b)
  | .integer i => some (.integer i)
  | .decimal x => some (.decimal x)
  | .text s => some (.text s)

namespace Operand

def plain (s : Scalar) : Operand :=
  match param? s with
  | some p => .bound p
  | none => .null

/-- A scalar that is compared with a column, cast if it is a text and the column has another
type. -/
def against (types : ColumnTypes) (field : String) : Scalar → Operand
  | .text s =>
    match types.castTarget? field with
    | some type => .cast (.text s) type
    | none => .bound (.text s)
  | s => plain s

def pieces : Operand → List Piece
  | .null => [.text "NULL"]
  | .bound p => [.param p]
  | .cast p type => [.text "CAST(", .param p, .text (" AS " ++ type ++ ")")]

end Operand

structure Between where
  field : String
  low : Operand
  high : Operand
  deriving DecidableEq

inductive Test where
  | isNull (field : String)
  | notNull (field : String)
  | compare (field : String) (op : Operator) (operand : Operand)
  /-- The text of a column against a pattern. -/
  | like (field : String) (pattern : Operand)
  | compareDay (field : String) (op : Operator) (day : Date)
  | likeDay (field : String) (pattern : String)
  /-- One of several ranges. -/
  | anyOf (ranges : List Between)
  deriving DecidableEq

def join (separator : String) : List (List Piece) → List Piece
  | [] => []
  | [part] => part
  | part :: rest => part ++ .text separator :: join separator rest

def Between.pieces (b : Between) : List Piece :=
  .text (column b.field ++ " BETWEEN ") :: b.low.pieces ++ .text " AND " :: b.high.pieces

def dayOf (field : String) : String := "CAST(" ++ column field ++ " AS DATE)"

namespace Test

def pieces : Test → List Piece
  | .isNull field => [.text (column field ++ " IS NULL")]
  | .notNull field => [.text (column field ++ " IS NOT NULL")]
  | .compare field op operand => .text (column field ++ " " ++ op.sql ++ " ") :: operand.pieces
  | .like field pattern => .text (column field ++ "::text ILIKE ") :: pattern.pieces
  | .compareDay field op day => [.text (dayOf field ++ " " ++ op.sql ++ " "), .param (.date day)]
  | .likeDay field pattern =>
    [.text ("CAST(" ++ dayOf field ++ " AS TEXT) ILIKE "), .param (.text pattern)]
  | .anyOf ranges => .text "(" :: join " OR " (ranges.map Between.pieces) ++ [.text ")"]

def ofPredicate (types : ColumnTypes) (p : Predicate) : Test :=
  match p.operator with
  -- The column is cast to text, so the pattern must not be cast to its type.
  | .like => .like p.field (.plain p.value)
  | op => .compare p.field op (.against types p.field p.value)

def ofDatePredicate (p : DatePredicate) : Test :=
  match p.value with
  | .day d => .compareDay p.field p.operator d
  | .pattern s => .likeDay p.field s

def ofNullCheck (c : NullCheck) : Test := if c.isNull then .isNull c.field else .notNull c.field

end Test

def Between.ofRange (types : ColumnTypes) (r : RangeCheck) : Between :=
  ⟨r.field, .against types r.field r.low, .against types r.field r.high⟩

/-- The tests a row must pass: the primary key is not null, every part of the plan holds, and the
row lies in one of the ranges if there are any. -/
def tests (types : ColumnTypes) (q : Query) : List Test :=
  .notNull q.entity.primaryKey :: q.plan.predicates.map (Test.ofPredicate types)
    ++ q.plan.datePredicates.map Test.ofDatePredicate
    ++ q.plan.nullChecks.map Test.ofNullCheck
    ++ if q.plan.ranges.isEmpty then [] else [.anyOf (q.plan.ranges.map (Between.ofRange types))]

def condition (types : ColumnTypes) (q : Query) : List Piece :=
  join " AND " ((tests types q).map Test.pieces)

end Sift.Sql

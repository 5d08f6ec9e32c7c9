import Sift.Sql.Condition

/-!
# Statements of a query

The two statements that answer a query in SQL: how many rows it selects, and the rows of a slice of
its sorted result, each as one JSON value.
-/

namespace Sift.Sql

def maxSigned : Nat := (1 <<< 63) - 1

/-- The pieces of the statement that counts the rows of a query. -/
def countPieces (types : ColumnTypes) (q : Query) : List Piece :=
  .text ("SELECT COUNT(*) FROM " ++ quoteTable q.entity.table ++ " AS t WHERE ")
    :: condition types q

def orderText (keys : List SortKey) : String :=
  if keys.isEmpty then ""
  else
    " ORDER BY " ++
      ", ".intercalate (keys.map fun k => column k.field ++ " " ++ k.direction.text)

/-- A slice bound; larger ones than an integer of the database can hold become the largest. -/
def bound (n : Nat) : Piece := .param (.integer (min n maxSigned : Nat))

/-- The pieces of the statement that selects a slice of the rows of a query. -/
def selectPieces (types : ColumnTypes) (q : Query) (w : Window) : List Piece :=
  .text ("SELECT to_jsonb(t) AS row FROM " ++ quoteTable q.entity.table ++ " AS t WHERE ")
    :: condition types q
    ++ [.text (orderText q.sort), .text " LIMIT ", bound w.limit, .text " OFFSET ", bound w.offset]

def renderCount (types : ColumnTypes) (q : Query) : Statement := .ofPieces (countPieces types q)

/-- The statement that selects a slice of the rows of a query. -/
def renderSelect (types : ColumnTypes) (q : Query) (w : Window) : Statement :=
  .ofPieces (selectPieces types q w)

end Sift.Sql

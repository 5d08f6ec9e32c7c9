import Sift.Binary64.Basic
import Sift.Calendar.Timestamp

/-!
# Parameterised statements

A statement is written as a list of pieces: text that stands as it is, and parameters, which stand
as numbered placeholders `$1`, `$2`, … in the text and as values beside it. So no parameter can
reach the text: two lists of pieces that differ only in their parameters have one text.

Main statement: `text_eq_of_blank_eq`.
-/

namespace Sift.Sql

inductive Param where
  | text (s : String)
  | integer (i : Int)
  | decimal (x : Binary64)
  | bool (b : Bool)
  | date (d : Date)
  deriving DecidableEq

inductive Piece where
  | text (s : String)
  | param (p : Param)
  deriving DecidableEq

def Piece.param? : Piece → Option Param
  | .text _ => none
  | .param p => some p

structure Statement where
  text : String
  params : List Param
  deriving DecidableEq

/-- The text of pieces whose first placeholder has number `n`. -/
def textFrom (n : Nat) : List Piece → String
  | [] => ""
  | .text s :: rest => s ++ textFrom n rest
  | .param _ :: rest => "$" ++ toString n ++ textFrom (n + 1) rest

/-- The values that pieces bind, in the order of their placeholders. -/
def paramsOf (pieces : List Piece) : List Param := pieces.filterMap Piece.param?

def Statement.ofPieces (pieces : List Piece) : Statement := ⟨textFrom 1 pieces, paramsOf pieces⟩

/-- A piece without the value it binds. -/
def Piece.blank : Piece → Option String
  | .text s => some s
  | .param _ => none

/-- The text of a statement does not depend on the values of its parameters. -/
theorem textFrom_eq_of_blank_eq {n : Nat} {a b : List Piece}
    (h : a.map Piece.blank = b.map Piece.blank) : textFrom n a = textFrom n b := by
  induction a generalizing n b with
  | nil => cases b <;> simp_all
  | cons x xs ih =>
    cases b with
    | nil => simp at h
    | cons y ys =>
      simp only [List.map_cons, List.cons.injEq] at h
      obtain ⟨hxy, hrest⟩ := h
      cases x <;> cases y <;> simp [Piece.blank] at hxy
      · simp [textFrom, hxy, ih hrest]
      · simp [textFrom, ih hrest]

/-- Pieces that bind different values in the same places have one text. -/
theorem text_eq_of_blank_eq {a b : List Piece} (h : a.map Piece.blank = b.map Piece.blank) :
    (Statement.ofPieces a).text = (Statement.ofPieces b).text :=
  textFrom_eq_of_blank_eq h

end Sift.Sql

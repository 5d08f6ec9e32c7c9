/-!
# Reading decimal counts

A count is written in decimal digits, with or without a plus sign. The digits are read from the
left, and the first thing wrong is the one reported: a character that is no digit, or a digit with
which the count exceeds its limit.

Main statement: `le_of_readCount`, the limit is kept.
-/

namespace Sift.Text

inductive CountFault where
  | empty
  | invalidDigit
  | tooLarge
  deriving DecidableEq, Repr

def CountFault.message : CountFault → String
  | .empty => "cannot parse integer from empty string"
  | .invalidDigit => "invalid digit found in string"
  | .tooLarge => "number too large to fit in target type"

def appendDigits (limit n : Nat) : List Char → Except CountFault Nat
  | [] => .ok n
  | c :: cs =>
    if c.isDigit then
      let m := 10 * n + (c.toNat - '0'.toNat)
      if m ≤ limit then appendDigits limit m cs else .error .tooLarge
    else
      .error .invalidDigit

/-- The count that a text writes, at most `limit`. -/
def readCount (limit : Nat) (s : String) : Except CountFault Nat :=
  match s.toList with
  | [] => .error .empty
  | ['+'] => .error .invalidDigit
  | '+' :: digits => appendDigits limit 0 digits
  | digits => appendDigits limit 0 digits

theorem le_of_appendDigits {limit n m : Nat} {cs : List Char} (hn : n ≤ limit)
    (h : appendDigits limit n cs = .ok m) : m ≤ limit := by
  fun_induction appendDigits limit n cs with
  | case1 => cases h; exact hn
  | case2 _ _ _ _ _ hm ih => exact ih hm h
  | case3 => cases h
  | case4 => cases h

/-- A count that is read fits the word that it is read into. -/
theorem le_of_readCount {limit m : Nat} {s : String} (h : readCount limit s = .ok m) :
    m ≤ limit := by
  unfold readCount at h
  split at h
  · cases h
  · cases h
  · exact le_of_appendDigits (Nat.zero_le _) h
  · exact le_of_appendDigits (Nat.zero_le _) h

end Sift.Text

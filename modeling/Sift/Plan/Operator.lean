import Sift.Text.Blank

/-!
# Comparison operators and sort directions

The closed set of operators that a document may name. All but `like` accept or refuse an ordering
of a column's value against an operand.

Main statement: `accepts_trichotomy`, how the six ordering operators follow from the three
orderings.
-/

namespace Sift

inductive Operator where
  | equal
  | notEqual
  | less
  | lessOrEqual
  | greater
  | greaterOrEqual
  | like
  deriving DecidableEq, Repr

namespace Operator

/-- The operator a client wrote, blanks around it aside. `<>` is another spelling of `!=`, and
`like` may be written in any case. -/
def ofText? (s : String) : Option Operator :=
  let cs := Text.trim s.toList
  if cs = ['='] then some .equal
  else if cs = ['!', '='] || cs = ['<', '>'] then some .notEqual
  else if cs = ['<'] then some .less
  else if cs = ['<', '='] then some .lessOrEqual
  else if cs = ['>'] then some .greater
  else if cs = ['>', '='] then some .greaterOrEqual
  else if Text.eqIgnoreAsciiCase cs ['l', 'i', 'k', 'e'] then some .like
  else none

def text : Operator → String
  | .equal => "="
  | .notEqual => "!="
  | .less => "<"
  | .lessOrEqual => "<="
  | .greater => ">"
  | .greaterOrEqual => ">="
  | .like => "LIKE"

def sql : Operator → String
  | .notEqual => "<>"
  | op => op.text

/-- Whether `column op operand` holds when the column lies so to the operand. A pattern match is
no ordering, so `like` accepts none. -/
def accepts : Operator → Ordering → Bool
  | .equal, o => o == .eq
  | .notEqual, o => o != .eq
  | .less, o => o == .lt
  | .lessOrEqual, o => o != .gt
  | .greater, o => o == .gt
  | .greaterOrEqual, o => o != .lt
  | .like, _ => false

/-- The weak operators and `!=` are the strict ones and `=` taken together. -/
theorem accepts_trichotomy (o : Ordering) :
    accepts .lessOrEqual o = (accepts .less o || accepts .equal o)
      ∧ accepts .greaterOrEqual o = (accepts .greater o || accepts .equal o)
      ∧ accepts .notEqual o = (accepts .less o || accepts .greater o) := by
  cases o <;> decide

end Operator

inductive SortDirection where
  | ascending
  | descending
  deriving DecidableEq, Repr

namespace SortDirection

/-- The direction a client asked for: ascending for `asc` in any case, blanks around it aside, and
descending for everything else, also for nothing. -/
def ofOrder : Option String → SortDirection
  | some s =>
    if Text.eqIgnoreAsciiCase (Text.trim s.toList) ['a', 's', 'c'] then .ascending else .descending
  | none => .descending

def text : SortDirection → String
  | .ascending => "ASC"
  | .descending => "DESC"

def orient : SortDirection → Ordering → Ordering
  | .ascending, o => o
  | .descending, o => o.swap

end SortDirection

structure SortKey where
  field : String
  direction : SortDirection
  deriving DecidableEq, Repr

end Sift

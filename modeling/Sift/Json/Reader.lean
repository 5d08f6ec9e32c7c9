import Sift.Json.Token

/-!
# Reading JSON

The grammatical half of reading JSON. The tokens of a text are taken one at a time by a machine
whose state is what it expects next and the stack of the arrays and objects that are still open.
There is a limit on how many may be open at once.

Main statement: `step_depth`, the limit is kept.
-/

namespace Sift.Json

/-- An array or object that is still open. Items are held last first. -/
inductive Frame where
  | array (items : List Json)
  | object (fields : Fields)
  /-- An object whose next field has its name already. -/
  | member (fields : Fields) (name : String)

inductive Expect where
  | value
  /-- The first item of an array, or its end. -/
  | firstItem
  /-- The first name in an object, or its end. -/
  | firstName
  | name
  | colon (name : String)
  /-- Whatever may follow this complete value. -/
  | afterValue (v : Json)

/-- What is expected next, and what is still open around it. -/
structure ReaderState where
  expect : Expect
  stack : List Frame

def beginValue (limit : Nat) (stack : List Frame) : Token → Option ReaderState
  | .null => some ⟨.afterValue .null, stack⟩
  | .bool b => some ⟨.afterValue (.bool b), stack⟩
  | .number n => some ⟨.afterValue (.number n), stack⟩
  | .string s => some ⟨.afterValue (.string s), stack⟩
  | .leftBracket => if stack.length < limit then some ⟨.firstItem, .array [] :: stack⟩ else none
  | .leftBrace => if stack.length < limit then some ⟨.firstName, .object [] :: stack⟩ else none
  | _ => none

def continueAfter (v : Json) : List Frame → Token → Option ReaderState
  | .array items :: stack, .comma => some ⟨.value, .array (v :: items) :: stack⟩
  | .array items :: stack, .rightBracket =>
    some ⟨.afterValue (.array (v :: items).reverse), stack⟩
  | .member fields name :: stack, .comma => some ⟨.name, .object (putField name v fields) :: stack⟩
  | .member fields name :: stack, .rightBrace =>
    some ⟨.afterValue (.object (putField name v fields)), stack⟩
  | _, _ => none

def step (limit : Nat) (state : ReaderState) (t : Token) : Option ReaderState :=
  match state.expect, state.stack, t with
  | .value, stack, t => beginValue limit stack t
  | .firstItem, .array [] :: stack, .rightBracket => some ⟨.afterValue (.array []), stack⟩
  | .firstItem, stack, t => beginValue limit stack t
  | .firstName, .object [] :: stack, .rightBrace => some ⟨.afterValue (.object []), stack⟩
  | .firstName, stack, .string name => some ⟨.colon name, stack⟩
  | .name, stack, .string name => some ⟨.colon name, stack⟩
  | .colon name, .object fields :: stack, .colon => some ⟨.value, .member fields name :: stack⟩
  | .afterValue v, stack, t => continueAfter v stack t
  | _, _, _ => none

/-- The value, when nothing is open any more. -/
def ReaderState.result? : ReaderState → Option Json
  | ⟨.afterValue v, []⟩ => some v
  | _ => none

def ofTokens? (limit : Nat) (tokens : List Token) : Option Json :=
  (tokens.foldlM (step limit) ⟨.value, []⟩).bind ReaderState.result?

/-- The value that a text writes, if it is JSON with at most `limit` values open at once. -/
def ofText? (limit : Nat) (s : String) : Option Json :=
  (tokens? s.toList).bind (ofTokens? limit)

/-! ### The limit is kept -/

/-- A value may open one level more, which the limit allows or the reader refuses. -/
theorem beginValue_depth {limit : Nat} {stack : List Frame} {t : Token} {next : ReaderState}
    (h : beginValue limit stack t = some next) (hs : stack.length ≤ limit) :
    next.stack.length ≤ limit := by
  unfold beginValue at h
  split at h <;> (try split at h) <;> simp at h <;> subst h <;> simp <;> omega

/-- What follows a value opens no level. -/
theorem continueAfter_depth {v : Json} {stack : List Frame} {t : Token} {next : ReaderState}
    (h : continueAfter v stack t = some next) : next.stack.length ≤ stack.length := by
  unfold continueAfter at h
  split at h <;> simp at h <;> subst h <;> simp

/-- No step nests deeper than the limit, so no text makes the stack of the reader grow past it. -/
theorem step_depth {limit : Nat} {state next : ReaderState} {t : Token}
    (h : step limit state t = some next) (hs : state.stack.length ≤ limit) :
    next.stack.length ≤ limit := by
  obtain ⟨expect, stack⟩ := state
  unfold step at h
  split at h
  case h_1 => exact beginValue_depth h (by simp_all)
  case h_3 => exact beginValue_depth h (by simp_all)
  case h_8 => exact Nat.le_trans (continueAfter_depth h) (by simp_all)
  case h_9 => simp at h
  all_goals (simp at h; subst h; simp_all; try omega)

end Sift.Json

import Sift.Json.Basic
import Sift.Binary64.Numeral

/-!
# JSON tokens

The lexical half of reading JSON: a text is blanks (space, tab, carriage return, line feed) and
tokens. Strings admit no raw control character, and an escape of half a surrogate pair is refused.

A number with a fraction, an exponent or too many digits is read in two roundings: its leading
digits, as many as fit 64 bits, are rounded to a floating-point number, and that is multiplied or
divided by a rounded power of ten. A number too large for the format is no number.

Main statement: `next?_length`, every token takes at least one character.
-/

namespace Sift.Json

inductive Token where
  | leftBrace
  | rightBrace
  | leftBracket
  | rightBracket
  | colon
  | comma
  | null
  | bool (b : Bool)
  | number (n : Number)
  | string (s : String)
  deriving DecidableEq, Repr

def isGap (c : Char) : Bool := c == ' ' || c == '\t' || c == '\r' || c == '\n'

/-! ### Strings -/

def hexValue? (c : Char) : Option Nat :=
  if c.isDigit then some (c.toNat - '0'.toNat)
  else if 'a' ≤ c && c ≤ 'f' then some (c.toNat - 'a'.toNat + 10)
  else if 'A' ≤ c && c ≤ 'F' then some (c.toNat - 'A'.toNat + 10)
  else none

def unit? (a b c d : Char) : Option Nat := do
  return ((← hexValue? a) * 16 + (← hexValue? b)) * 256 + ((← hexValue? c) * 16 + (← hexValue? d))

def escaped? : Char → Option Char
  | '"' => some '"'
  | '\\' => some '\\'
  | '/' => some '/'
  | 'b' => some '\x08'
  | 'f' => some '\x0c'
  | 'n' => some '\n'
  | 'r' => some '\r'
  | 't' => some '\t'
  | _ => none

/-- What one 16-bit unit means after the units before it. -/
inductive UnitStep where
  | high (unit : Nat)
  | char (c : Char)
  | stray

/-- Joins a unit to a first surrogate that waits for its second, if one does. -/
def unitStep (waiting : Option Nat) (unit : Nat) : UnitStep :=
  let isLow := 0xDC00 ≤ unit && unit < 0xE000
  match waiting with
  | some high =>
    if isLow then .char (Char.ofNat (0x10000 + (high - 0xD800) * 0x400 + (unit - 0xDC00)))
    else .stray
  | none =>
    if 0xD800 ≤ unit && unit < 0xDC00 then .high unit
    else if isLow then .stray
    else .char (Char.ofNat unit)

/-- The rest of a string after its opening quote. `done` holds its characters so far, last first,
and `waiting` a first surrogate that must be followed by a second. -/
def string? (waiting : Option Nat) (done : List Char) : List Char → Option (String × List Char)
  | [] => none
  | '"' :: rest => if waiting.isSome then none else some (String.ofList done.reverse, rest)
  | '\\' :: 'u' :: a :: b :: c :: d :: rest =>
    match unit? a b c d with
    | none => none
    | some unit =>
      match unitStep waiting unit with
      | .high unit => string? (some unit) done rest
      | .char c => string? none (c :: done) rest
      | .stray => none
  | '\\' :: e :: rest =>
    if waiting.isSome then none
    else
      match escaped? e with
      | some c => string? none (c :: done) rest
      | none => none
  | c :: rest =>
    if waiting.isSome || c.toNat < 0x20 then none else string? none (c :: done) rest

/-- A text ends at its quote, which is read as well. -/
theorem string?_length {waiting : Option Nat} {done cs : List Char} {s : String}
    {rest : List Char} (h : string? waiting done cs = some (s, rest)) :
    rest.length < cs.length := by
  fun_induction string? waiting done cs <;> simp_all <;> omega

/-! ### Numbers -/

def maxUnsigned : Nat := UInt64.size - 1

/-- Appends decimal digits to `n` while the result fits 64 bits, and counts those appended. -/
def gather (n : Nat) : List Char → Nat × Nat
  | [] => (n, 0)
  | c :: cs =>
    let m := 10 * n + (c.toNat - '0'.toNat)
    if m ≤ maxUnsigned then
      let (total, taken) := gather m cs
      (total, taken + 1)
    else
      (n, 0)

/-- The largest power of ten that is used as one factor. -/
def maxPower : Nat := 308

def powerOfTen (n : Nat) : Binary64 := Binary64.ofRatio false (Nat.pow 10 n) 1

/-- Scales `x` by a power of ten, one rounded factor at a time; none if it grows too large. -/
def scale? (x : Binary64) (exponent : Int) : Option Binary64 :=
  if exponent.natAbs ≤ maxPower then
    if 0 ≤ exponent then
      let y := x.mul (powerOfTen exponent.natAbs)
      if y.isFinite then some y else none
    else
      some (x.div (powerOfTen exponent.natAbs))
  else if x.isZero then
    some x
  else if 0 ≤ exponent then
    none
  else
    scale? (x.div (powerOfTen maxPower)) (exponent + maxPower)
termination_by (-exponent).toNat
decreasing_by simp only [maxPower] at *; omega

/-- The digits after the point of a number, if it has a point, and what follows. -/
def fraction? : List Char → Option (List Char × List Char)
  | '.' :: cs =>
    let digits := cs.takeWhile Char.isDigit
    if digits.isEmpty then none else some (digits, cs.dropWhile Char.isDigit)
  | cs => some ([], cs)

def exponentPart? (cs : List Char) : Option (Option Int × List Char) :=
  match cs with
  | c :: rest =>
    if c == 'e' || c == 'E' then
      let (negative, more) := Binary64.takeSign rest
      let digits := more.takeWhile Char.isDigit
      let n : Int := Binary64.digitsValue digits
      if digits.isEmpty then none
      else some (some (if negative then -n else n), more.dropWhile Char.isDigit)
    else
      some (none, cs)
  | [] => some (none, [])

/-- An integer as a number: of its own kind where 64 bits hold it, else rounded. A negative zero is
no integer. -/
def wholeNumber (negative : Bool) (n : Nat) : Option Number :=
  if negative then
    if n = 0 then some (.decimal (Binary64.ofRank true 0))
    else if n ≤ 1 <<< 63 then some (.integer (-n))
    else some (.decimal (Binary64.ofRatio true n 1))
  else
    some (.integer n)

/-- The number written by the digits before and after the point and the exponent. -/
def number? (negative : Bool) (whole fraction : List Char) (exponent : Option Int) :
    Option Number :=
  let (head, taken) := gather 0 whole
  if taken = whole.length && fraction.isEmpty && exponent.isNone then
    wholeNumber negative head
  else
    -- Digits beyond 64 bits are dropped, and those of the whole part still count as places.
    let (significand, places) := gather head fraction
    let scaling : Int := (whole.length - taken : Nat) - places + exponent.getD 0
    (scale? (Binary64.ofRatio false significand 1) scaling).map fun x =>
      .decimal (if negative then x.negate else x)

/-- The digits before the point: one zero, or digits that do not start with zero. -/
def isWhole : List Char → Bool
  | [] => false
  | '0' :: rest => rest.isEmpty
  | _ => true

/-- Reads a number, whose first character is a digit or a minus. -/
def numberToken? (cs : List Char) : Option (Number × List Char) := do
  let (negative, body) := match cs with
    | '-' :: rest => (true, rest)
    | _ => (false, cs)
  let whole := body.takeWhile Char.isDigit
  if isWhole whole then
    let (fraction, afterFraction) ← fraction? (body.dropWhile Char.isDigit)
    let (exponent, rest) ← exponentPart? afterFraction
    let n ← number? negative whole fraction exponent
    return (n, rest)
  else
    none

/-! ### The tokens of a text -/

def afterWord? : (w cs : List Char) → Option (List Char)
  | [], cs => some cs
  | a :: w, c :: cs => if a = c then afterWord? w cs else none
  | _ :: _, [] => none

/-- The first token of a text that does not start with a gap, and the rest of the text. -/
def next? : List Char → Option (Token × List Char)
  | '\x7b' :: rest => some (.leftBrace, rest)
  | '\x7d' :: rest => some (.rightBrace, rest)
  | '[' :: rest => some (.leftBracket, rest)
  | ']' :: rest => some (.rightBracket, rest)
  | ':' :: rest => some (.colon, rest)
  | ',' :: rest => some (.comma, rest)
  | '"' :: rest => (string? none [] rest).map fun (s, more) => (.string s, more)
  | 'n' :: rest => (afterWord? ['u', 'l', 'l'] rest).map (.null, ·)
  | 't' :: rest => (afterWord? ['r', 'u', 'e'] rest).map (.bool true, ·)
  | 'f' :: rest => (afterWord? ['a', 'l', 's', 'e'] rest).map (.bool false, ·)
  | cs => (numberToken? cs).map fun (n, more) => (.number n, more)

/-! ### Every token takes a character -/

theorem afterWord?_length {w cs rest : List Char} (h : afterWord? w cs = some rest) :
    rest.length ≤ cs.length := by
  fun_induction afterWord? w cs <;> simp_all
  omega

theorem fraction?_length {cs digits rest : List Char} (h : fraction? cs = some (digits, rest)) :
    rest.length ≤ cs.length := by
  unfold fraction? at h
  split at h
  · next more =>
    have := (List.dropWhile_suffix (l := more) Char.isDigit).length_le
    simp only at h
    split at h <;> simp_all
    omega
  · simp_all

theorem exponentPart?_length {cs rest : List Char} {e : Option Int}
    (h : exponentPart? cs = some (e, rest)) : rest.length ≤ cs.length := by
  unfold exponentPart? at h
  split at h
  · next c more =>
    split at h
    · have hs : (Binary64.takeSign more).2.length ≤ more.length := by
        unfold Binary64.takeSign; split <;> simp
      have := (List.dropWhile_suffix (l := (Binary64.takeSign more).2) Char.isDigit).length_le
      simp only at h
      split at h <;> simp_all
      omega
    · simp_all
  · simp_all

/-- A whole number has at least one digit. -/
theorem length_dropWhile_lt_of_isWhole {cs : List Char}
    (h : isWhole (cs.takeWhile Char.isDigit)) : (cs.dropWhile Char.isDigit).length < cs.length := by
  cases cs with
  | nil => simp [isWhole] at h
  | cons c rest =>
    cases hc : c.isDigit with
    | false => simp [hc, isWhole] at h
    | true =>
      have := (List.dropWhile_suffix (l := rest) Char.isDigit).length_le
      simp [hc]; omega

/-- A number has a digit before its point, so reading one consumes something. -/
theorem numberToken?_length {cs rest : List Char} {n : Number}
    (h : numberToken? cs = some (n, rest)) : rest.length < cs.length := by
  unfold numberToken? at h
  generalize hb : (match cs with | '-' :: rest => (true, rest) | _ => (false, cs)) = signed at h
  have hbody : signed.2.length ≤ cs.length := by
    subst hb; split <;> simp
  simp only at h
  split at h
  · next hw =>
    simp only [Option.bind_eq_bind, Option.bind_eq_some_iff, Option.pure_def,
      Option.some.injEq, Prod.mk.injEq] at h
    obtain ⟨⟨f, r₁⟩, h₁, ⟨e, r₂⟩, h₂, m, -, -, rfl⟩ := h
    have := length_dropWhile_lt_of_isWhole hw
    have := fraction?_length h₁
    have := exponentPart?_length h₂
    simp only at *
    omega
  · simp at h

/-- Every token consumes at least one character, so the tokens of a text can be read one after the
other. -/
theorem next?_length {cs rest : List Char} {t : Token} (h : next? cs = some (t, rest)) :
    rest.length < cs.length := by
  unfold next? at h
  split at h <;> simp only [Option.map_eq_some_iff, Option.some.injEq, Prod.mk.injEq] at h
  case h_7 =>
    obtain ⟨p, hp, -, rfl⟩ := h
    exact Nat.lt_succ_of_lt (string?_length hp)
  case h_8 | h_9 | h_10 =>
    obtain ⟨p, hp, -, rfl⟩ := h
    exact Nat.lt_succ_of_le (afterWord?_length hp)
  case h_11 =>
    obtain ⟨p, hp, -, rfl⟩ := h
    exact numberToken?_length hp
  all_goals (obtain ⟨-, rfl⟩ := h; simp)

/-- The tokens of a text, put behind those in `done`, which is in reverse. -/
def tokensFrom? (done : List Token) (cs : List Char) : Option (List Token) :=
  match _hg : cs.dropWhile isGap with
  | [] => some done.reverse
  | c :: rest =>
    match _hn : next? (c :: rest) with
    | some (t, more) => tokensFrom? (t :: done) more
    | none => none
termination_by cs.length
decreasing_by
  have h₁ := next?_length _hn
  have h₂ := (List.dropWhile_suffix (l := cs) isGap).length_le
  rw [_hg] at h₂
  omega

def tokens? (cs : List Char) : Option (List Token) := tokensFrom? [] cs

end Sift.Json

import Sift.Yaml.Scalar.Basic

/-!
# Quoted scalars

Between single quotes only the quote itself has to be doubled. Between double quotes a backslash
starts an escape: a letter that stands for a character, a code of two, four or eight hexadecimal
digits, or a line break that is not to count.

Main statements: `single?_length` and `double?_length`.
-/

namespace Sift.Yaml

/-- The rest of a single-quoted scalar after its opening quote. `done` is in reverse. -/
def single? (done : List Char) (marks : List Mark) : Option (List Char × List Mark) :=
  match marks with
  | [] => none
  | m :: rest =>
    if atBoundary (m :: rest) then none
    else if _hm : m.isGap then
      single? ((joint ((m :: rest).takeWhile Mark.isGap)).reverse ++ done)
        ((m :: rest).dropWhile Mark.isGap)
    else if m.char != '\'' then single? (m.char :: done) rest
    else
      match rest with
      | [] => some (done.reverse, [])
      | n :: more =>
        if n.char == '\'' then single? ('\'' :: done) more else some (done.reverse, n :: more)
termination_by marks.length
decreasing_by
  · exact length_gap_lt (by simp [_hm])
  · simp
  · simp +arith

/-- The character that a backslash and one character stand for. -/
def escaped? : Char → Option Char
  | '0' => some '\x00'
  | 'a' => some '\x07'
  | 'b' => some '\x08'
  | 't' | '\t' => some '\t'
  | 'n' => some '\n'
  | 'v' => some '\x0b'
  | 'f' => some '\x0c'
  | 'r' => some '\r'
  | 'e' => some '\x1b'
  | ' ' => some ' '
  | '"' => some '"'
  | '/' => some '/'
  | '\\' => some '\\'
  | 'N' => some '\u0085'
  | '_' => some '\u00a0'
  | 'L' => some '\u2028'
  | 'P' => some '\u2029'
  | _ => none

/-- How many digits the code after a backslash and one character has. -/
def codeLength? : Char → Option Nat
  | 'x' => some 2
  | 'u' => some 4
  | 'U' => some 8
  | _ => none

def hexDigit? (c : Char) : Option Nat :=
  if c.isDigit then some (c.toNat - '0'.toNat)
  else if 'a' ≤ c && c ≤ 'f' then some (c.toNat - 'a'.toNat + 10)
  else if 'A' ≤ c && c ≤ 'F' then some (c.toNat - 'A'.toNat + 10)
  else none

def hexValue? (digits : List Char) : Option Nat :=
  digits.foldlM (fun n c => (hexDigit? c).map (16 * n + ·)) 0

/-- The character with the code that the next `n` characters write. -/
def coded? (n : Nat) (marks : List Mark) : Option Char :=
  let digits := chars (marks.take n)
  if digits.length < n then none
  else
    match hexValue? digits with
    | none => none
    | some v => if v < 0xD800 || (0xDFFF < v && v ≤ 0x10FFFF) then some (Char.ofNat v) else none

/-- What an escape stands for, after its backslash, and what follows. -/
def escape? : List Mark → Option (List Char × List Mark)
  | [] => none
  | e :: rest =>
    if e.isBreak then
      some (breaks (rest.takeWhile Mark.isGap), rest.dropWhile Mark.isGap)
    else
      match escaped? e.char, codeLength? e.char with
      | some c, _ => some ([c], rest)
      | none, some n => (coded? n rest).map fun c => ([c], rest.drop n)
      | none, none => none

theorem escape?_length {marks rest : List Mark} {cs : List Char}
    (h : escape? marks = some (cs, rest)) : rest.length ≤ marks.length := by
  unfold escape? at h
  split at h
  · simp at h
  · next e more =>
    have := (List.dropWhile_suffix (l := more) Mark.isGap).length_le
    split at h
    · simp at h; simp [← h.2]; omega
    · split at h
      · simp at h; simp [← h.2]
      · next n _ =>
        simp only [Option.map_eq_some_iff, Prod.mk.injEq] at h
        obtain ⟨_, _, _, rfl⟩ := h
        simp; omega
      · simp at h

/-- The rest of a double-quoted scalar after its opening quote. `done` is in reverse. -/
def double? (done : List Char) (marks : List Mark) : Option (List Char × List Mark) :=
  match marks with
  | [] => none
  | m :: rest =>
    if atBoundary (m :: rest) then none
    else if _hm : m.isGap then
      double? ((joint ((m :: rest).takeWhile Mark.isGap)).reverse ++ done)
        ((m :: rest).dropWhile Mark.isGap)
    else if m.char == '"' then some (done.reverse, rest)
    else if m.char == '\\' then
      match _he : escape? rest with
      | none => none
      | some (cs, more) => double? (cs.reverse ++ done) more
    else double? (m.char :: done) rest
termination_by marks.length
decreasing_by
  · exact length_gap_lt (by simp [_hm])
  · have := escape?_length _he; simp; omega
  · simp

/-- A quoted scalar ends at its quote, which is read as well. -/
theorem single?_length {done cs : List Char} {marks rest : List Mark}
    (h : single? done marks = some (cs, rest)) : rest.length < marks.length := by
  fun_induction single? done marks with
  | case3 done m more _ hm ih =>
    exact Nat.lt_trans (ih h) (length_gap_lt (by simp [hm]))
  | case4 done m more _ _ _ ih => have := ih h; simp only [List.length_cons]; omega
  | case6 done m _ _ _ n more _ ih => have := ih h; simp only [List.length_cons]; omega
  | _ => simp_all

theorem double?_length {done cs : List Char} {marks rest : List Mark}
    (h : double? done marks = some (cs, rest)) : rest.length < marks.length := by
  fun_induction double? done marks with
  | case3 done m more _ hm ih =>
    exact Nat.lt_trans (ih h) (length_gap_lt (by simp [hm]))
  | case6 done m rest _ _ _ _ _ more he ih =>
    have := ih h
    have := escape?_length he
    simp only [List.length_cons]
    omega
  | case7 done m more _ _ _ _ ih => have := ih h; simp only [List.length_cons]; omega
  | _ => simp_all

end Sift.Yaml

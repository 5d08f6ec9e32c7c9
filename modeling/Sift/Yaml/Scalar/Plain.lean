import Sift.Yaml.Scalar.Basic

/-!
# Plain scalars

A plain scalar has no marks around it. It ends where a colon, a comment or, among flow collections,
one of their indicators follows, and outside of them at a line that is indented no deeper than what
it belongs to.

Main statement: `plain?_length`, a plain scalar takes characters from the front only.
-/

namespace Sift.Yaml

/-- The longest word of a plain scalar at the front. Among flow collections, a colon before an
indicator is refused. -/
def word? (inFlow : Bool) : List Mark → Option (List Char × List Mark)
  | [] => some ([], [])
  | m :: rest =>
    if m.isGap then some ([], m :: rest)
    else if inFlow && m.char == ':' && startsWith [',', '?', '[', ']', '\x7b', '\x7d'] rest then
      none
    else if (m.char == ':' && atGap rest) || (inFlow && isFlowIndicator m.char) then
      some ([], m :: rest)
    else
      match word? inFlow rest with
      | some (cs, more) => some (m.char :: cs, more)
      | none => none

theorem word?_length {inFlow : Bool} {marks rest : List Mark} {cs : List Char}
    (h : word? inFlow marks = some (cs, rest)) : rest.length ≤ marks.length := by
  fun_induction word? inFlow marks generalizing cs rest with
  | case5 m marks _ _ _ cs' more hw ih =>
    have := ih hw
    simp only [Option.some.injEq, Prod.mk.injEq] at h
    simp only [← h.2, List.length_cons]
    omega
  | _ => simp_all

/-- Whether a tab stands where a continued line is still to be indented. -/
def hasStrayTab (indent : Nat) (gap : List Mark) : Bool :=
  (gap.dropWhile (!·.isBreak)).any fun m => m.char == '\t' && decide (m.column < indent)

/-- Whether what follows a gap cannot continue a plain scalar. -/
def endsPlain (inFlow : Bool) (indent : Nat) : List Mark → Bool
  | [] => true
  | m :: rest =>
    (!inFlow && decide (m.column < indent)) || atBoundary (m :: rest) || m.char == '#'

/-- A scalar and whether its last line has been left, and what follows. -/
abbrev PlainResult := (List Char × Bool) × List Mark

/-- Continues a plain scalar after the words in `done`, which are in reverse. -/
def plainFrom? (inFlow : Bool) (indent : Nat) (done : List Char) (marks : List Mark) :
    Option PlainResult :=
  let gap := marks.takeWhile Mark.isGap
  let rest := marks.dropWhile Mark.isGap
  if _hg : gap.isEmpty then some ((done.reverse, false), marks)
  else if hasStrayTab indent gap then none
  else if endsPlain inFlow indent rest then some ((done.reverse, gap.any Mark.isBreak), rest)
  else
    match _hw : word? inFlow rest with
    | none => none
    | some (cs, more) =>
      if cs.isEmpty then some ((done.reverse, gap.any Mark.isBreak), rest)
      else plainFrom? inFlow indent ((joint gap ++ cs).reverse ++ done) more
termination_by marks.length
decreasing_by
  have h₁ := length_gap_lt (Bool.eq_false_iff.2 _hg)
  have h₂ := word?_length _hw
  exact Nat.lt_of_le_of_lt h₂ h₁

/-- Reads a plain scalar after its first character. Continued lines are to be indented to
`indent`. -/
def plain? (inFlow : Bool) (indent : Nat) (first : Char) (marks : List Mark) :
    Option PlainResult :=
  match word? inFlow marks with
  | none => none
  | some (cs, rest) => plainFrom? inFlow indent (first :: cs).reverse rest

/-- A plain scalar goes on over words and gaps and gives nothing back. -/
theorem plainFrom?_length {inFlow : Bool} {indent : Nat} {done : List Char}
    {marks : List Mark} {r : PlainResult} (h : plainFrom? inFlow indent done marks = some r) :
    r.2.length ≤ marks.length := by
  fun_induction plainFrom? inFlow indent done marks with
  | case1 => simp at h; simp [← h]
  | case2 => simp at h
  | case3 done marks gap rest =>
    have := (List.dropWhile_suffix (l := marks) Mark.isGap).length_le
    simp at h
    simpa [← h]
  | case4 => simp at h
  | case5 done marks gap rest =>
    have := (List.dropWhile_suffix (l := marks) Mark.isGap).length_le
    simp at h
    simpa [← h]
  | case6 done marks gap rest _ _ _ cs more hw _ ih =>
    exact Nat.le_trans (ih h) (Nat.le_trans (word?_length hw) (List.dropWhile_suffix _).length_le)

theorem plain?_length {inFlow : Bool} {indent : Nat} {first : Char} {marks : List Mark}
    {r : PlainResult} (h : plain? inFlow indent first marks = some r) :
    r.2.length ≤ marks.length := by
  unfold plain? at h
  split at h
  · simp at h
  · next hw => exact Nat.le_trans (plainFrom?_length h) (word?_length hw)

end Sift.Yaml

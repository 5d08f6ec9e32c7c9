import Sift.Yaml.Scalar.Basic

/-!
# Block scalars

A block scalar is a header line and the lines after it that are indented. The header may say how
deep they are, which otherwise the first of them that is not empty shows, and what becomes of the
line breaks at the end. In a folded block a single break between two lines that do not start with
a blank stands for a space.

Main statement: `block?_length`.
-/

namespace Sift.Yaml

/-- What becomes of the line breaks at the end of a block. -/
inductive Chomping where
  /-- None is kept. -/
  | strip
  /-- One is kept. -/
  | clip
  /-- All are kept. -/
  | keep
  deriving DecidableEq

def chomping? : Char → Option Chomping
  | '-' => some .strip
  | '+' => some .keep
  | _ => none

/-- What a header says. An increment of zero stands for none. -/
structure BlockHeader where
  chomping : Chomping
  increment : Nat

def increment? (c : Char) : Option Nat :=
  if '1' ≤ c && c ≤ '9' then some (c.toNat - '0'.toNat) else none

/-- Reads an increment, if the next character is a digit, which must not be zero then. -/
def incrementPart? : List Mark → Option (Nat × List Mark)
  | [] => some (0, [])
  | m :: rest =>
    if m.char.isDigit then (increment? m.char).map (·, rest) else some (0, m :: rest)

/-- Reads what a header says about line breaks, if it says anything. -/
def chompingPart : List Mark → Chomping × List Mark
  | [] => (.clip, [])
  | m :: rest =>
    match chomping? m.char with
    | some c => (c, rest)
    | none => (.clip, m :: rest)

/-- Reads a header, whose two parts may come in either order, up to the end of its line. -/
def blockHeader? (marks : List Mark) : Option (BlockHeader × List Mark) :=
  match chompingPart marks with
  | (.clip, _) =>
    (incrementPart? marks).bind fun (increment, rest) =>
      let (chomping, rest) := if increment = 0 then (.clip, rest) else chompingPart rest
      (afterLine? rest).map (⟨chomping, increment⟩, ·)
  | (chomping, rest) =>
    (incrementPart? rest).bind fun (increment, rest) =>
      (afterLine? rest).map (⟨chomping, increment⟩, ·)

/-- The empty lines at the front and the indentation of the next line, at most `indent` deep unless
that is zero. The result has the line breaks, the deepest column reached, and what follows. -/
def emptyLines? (indent deepest : Nat) (done : List Char) :
    List Mark → Option (List Char × Nat × List Mark)
  | [] => some (done.reverse, deepest, [])
  | m :: rest =>
    let inside := indent == 0 || decide (m.column < indent)
    if inside && m.char == ' ' then emptyLines? indent (max deepest (m.column + 1)) done rest
    else if inside && m.char == '\t' then none
    else if m.isBreak then emptyLines? indent (max deepest m.column) (m.char :: done) rest
    else some (done.reverse, max deepest m.column, m :: rest)

structure BlockState where
  /-- The characters so far, last first. -/
  done : List Char
  /-- The break of the last line. -/
  lineBreak : List Char
  /-- The empty lines after it. -/
  after : List Char
  /-- Whether the last line starts with a blank. -/
  wasBlank : Bool

/-- The characters between the last line and one that starts with a blank or does not. -/
def BlockState.joint (s : BlockState) (style : Style) (isBlank : Bool) : List Char :=
  if style = .folded && s.lineBreak == ['\n'] && !s.wasBlank && !isBlank then
    (if s.after.isEmpty then [' '] else []) ++ s.after
  else
    s.lineBreak ++ s.after

theorem emptyLines?_length {indent deepest d : Nat} {done bs : List Char}
    {marks rest : List Mark} (h : emptyLines? indent deepest done marks = some (bs, d, rest)) :
    rest.length ≤ marks.length := by
  fun_induction emptyLines? indent deepest done marks with
  | case1 => simp at h; simp [← h.2.2]
  | case2 _ _ _ _ _ _ ih => have := ih h; simp; omega
  | case3 => simp at h
  | case4 _ _ _ _ _ _ _ _ ih => have := ih h; simp; omega
  | case5 => simp at h; simp [← h.2.2]

def blockLines? (style : Style) (indent : Nat) (s : BlockState) (marks : List Mark) :
    Option (BlockState × List Mark) :=
  match marks with
  | [] => some (s, [])
  | m :: rest =>
    if m.column != indent || m.isBreak then some (s, m :: rest)
    else
      let line := (m :: rest).takeWhile (!·.isBreak)
      let blank := isBlank m.char
      let done := (s.joint style blank ++ chars line).reverse ++ s.done
      match _hb : rest.dropWhile (!·.isBreak) with
      | [] => some (⟨done, [], [], blank⟩, [])
      | b :: more =>
        match _he : emptyLines? indent 0 [] more with
        | none => none
        | some (after, _, next) => blockLines? style indent ⟨done, [b.char], after, blank⟩ next
termination_by marks.length
decreasing_by
  have h₁ := emptyLines?_length _he
  have h₂ := (List.dropWhile_suffix (l := rest) (!·.isBreak)).length_le
  rw [_hb] at h₂
  simp only [List.length_cons] at *
  omega

def BlockState.text (s : BlockState) : Chomping → List Char
  | .strip => s.done.reverse
  | .clip => s.done.reverse ++ s.lineBreak
  | .keep => s.done.reverse ++ s.lineBreak ++ s.after

/-- Reads a block scalar after its first character. The lines are indented deeper than those at
`outer`, if it belongs to any. -/
def block? (style : Style) (outer : Option Nat) (marks : List Mark) :
    Option (List Char × List Mark) :=
  match blockHeader? marks with
  | none => none
  | some (header, body) =>
    let least := match outer with
      | some column => column + 1
      | none => 0
    let given := if header.increment = 0 then 0 else outer.getD 0 + header.increment
    match emptyLines? given 0 [] body with
    | none => none
    | some (after, deepest, rest) =>
      let indent := if given = 0 then max (max deepest least) 1 else given
      (blockLines? style indent ⟨[], [], after, false⟩ rest).map fun (s, more) =>
        (s.text header.chomping, more)

theorem incrementPart?_length {marks rest : List Mark} {n : Nat}
    (h : incrementPart? marks = some (n, rest)) : rest.length ≤ marks.length := by
  unfold incrementPart? at h
  split at h
  · simp at h; simp [← h.2]
  · split at h
    · simp only [Option.map_eq_some_iff, Prod.mk.injEq] at h
      obtain ⟨_, _, _, rfl⟩ := h
      simp
    · simp at h; simp [← h.2]

theorem chompingPart_length (marks : List Mark) :
    (chompingPart marks).2.length ≤ marks.length := by
  unfold chompingPart
  split
  · simp
  · split <;> simp

theorem blockHeader?_length {marks rest : List Mark} {header : BlockHeader}
    (h : blockHeader? marks = some (header, rest)) : rest.length ≤ marks.length := by
  unfold blockHeader? at h
  have hc := chompingPart_length marks
  split at h
  · simp only [Option.bind_eq_some_iff, Option.map_eq_some_iff, Prod.mk.injEq] at h
    obtain ⟨⟨n, r₁⟩, h₁, r₂, h₂, _, rfl⟩ := h
    have := incrementPart?_length h₁
    have := afterLine?_length h₂
    have := chompingPart_length r₁
    split at h₂ <;> simp_all <;> omega
  · next heq =>
    simp only [heq, Option.bind_eq_some_iff, Option.map_eq_some_iff, Prod.mk.injEq] at h hc
    obtain ⟨⟨n, r₁⟩, h₁, r₂, h₂, _, rfl⟩ := h
    have := incrementPart?_length h₁
    have := afterLine?_length h₂
    simp only at *
    omega

/-- Lines are read one by one until one is indented less. -/
theorem blockLines?_length {style : Style} {indent : Nat} {s t : BlockState}
    {marks rest : List Mark} (h : blockLines? style indent s marks = some (t, rest)) :
    rest.length ≤ marks.length := by
  fun_induction blockLines? style indent s marks with
  | case5 s m rest' _ _ _ _ b more hb after _ next he ih =>
    have := ih h
    have h₁ := emptyLines?_length he
    have h₂ := (List.dropWhile_suffix (l := rest') (!·.isBreak)).length_le
    rw [hb] at h₂
    simp only [List.length_cons] at *
    omega
  | _ => simp_all

/-- A block scalar with its header leaves no more than there was. -/
theorem block?_length {style : Style} {outer : Option Nat} {marks rest : List Mark}
    {cs : List Char} (h : block? style outer marks = some (cs, rest)) :
    rest.length ≤ marks.length := by
  unfold block? at h
  split at h
  · simp at h
  · next hh =>
    simp only at h
    split at h
    · simp at h
    · next he =>
      simp only [Option.map_eq_some_iff, Prod.mk.injEq] at h
      obtain ⟨⟨t, r⟩, hl, _, rfl⟩ := h
      exact Nat.le_trans (blockLines?_length hl)
        (Nat.le_trans (emptyLines?_length he) (blockHeader?_length hh))

end Sift.Yaml

/-!
# Characters of a YAML text and their places

What a character of YAML means depends on the column it stands in, so a text is read as its
characters together with their places. Every line break is one character: a carriage return, a
carriage return before a line feed and a next-line character all become a line feed, while the
separators of lines and paragraphs stay themselves.

Main statement: `length_gap_lt`, a gap is longer than nothing.
-/

namespace Sift.Yaml

def isAllowed (c : Char) : Bool :=
  let n := c.toNat
  n == 0x09 || n == 0x0A || n == 0x0D || (0x20 ≤ n && n ≤ 0x7E) || n == 0x85
    || (0xA0 ≤ n && n ≤ 0xFFFD) || 0x10000 ≤ n

def isBreak (c : Char) : Bool :=
  c == '\n' || c == '\r' || c == '\u0085' || c == '\u2028' || c == '\u2029'

def isBlank (c : Char) : Bool := c == ' ' || c == '\t'

def isFlowIndicator (c : Char) : Bool :=
  c == ',' || c == '[' || c == ']' || c == '\x7b' || c == '\x7d'

def isWordChar (c : Char) : Bool := c.isAlphanum || c == '_' || c == '-'

/-- A character and its place. Lines, columns and indices count from zero, lines and columns in
characters and indices in bytes. -/
structure Mark where
  char : Char
  line : Nat
  column : Nat
  index : Nat

/-- The characters with one line feed for each way to write one. -/
def unifyBreaks : List Char → List Char
  | '\r' :: '\n' :: cs => '\n' :: unifyBreaks cs
  | c :: cs => (if c == '\r' || c == '\u0085' then '\n' else c) :: unifyBreaks cs
  | [] => []

/-- The characters with their places, the first of them in the place given. -/
def marksFrom (line column index : Nat) : List Char → List Mark
  | [] => []
  | c :: cs =>
    ⟨c, line, column, index⟩
      :: if isBreak c then marksFrom (line + 1) 0 (index + c.utf8Size) cs
        else marksFrom line (column + 1) (index + c.utf8Size) cs

/-- The characters of a text and their places, if all of them are allowed. -/
def marks? (s : String) : Option (List Mark) :=
  if s.toList.all isAllowed then some (marksFrom 0 0 0 (unifyBreaks s.toList)) else none

namespace Mark

def isGap (m : Mark) : Bool := isBlank m.char || isBreak m.char

def isBreak (m : Mark) : Bool := Yaml.isBreak m.char

end Mark

def chars (marks : List Mark) : List Char := marks.map Mark.char

def breaks (marks : List Mark) : List Char := chars (marks.filter Mark.isBreak)

/-- Whether a word ends here: at a blank, a line break or the end of the text. -/
def atGap : List Mark → Bool
  | [] => true
  | m :: _ => m.isGap

def startsWith (set : List Char) : List Mark → Bool
  | [] => false
  | m :: _ => set.contains m.char

/-- Whether a line starts here with `---` or `...`, which bound documents. -/
def atBoundary : List Mark → Bool
  | a :: b :: c :: rest =>
    a.column == 0 && (a.char == '-' || a.char == '.') && b.char == a.char && c.char == a.char
      && atGap rest
  | _ => false

/-- What follows the rest of the line, which may hold blanks and a comment only. -/
def afterLine? (marks : List Mark) : Option (List Mark) :=
  let rest := marks.dropWhile fun m => isBlank m.char
  let rest := if startsWith ['#'] rest then rest.dropWhile (!·.isBreak) else rest
  match rest with
  | [] => some []
  | m :: more => if m.isBreak then some more else none

/-! ### Lengths -/

/-- Leaving out a gap that is there makes what is left shorter. -/
theorem length_gap_lt {marks : List Mark} (h : (marks.takeWhile Mark.isGap).isEmpty = false) :
    (marks.dropWhile Mark.isGap).length < marks.length := by
  have : (marks.takeWhile Mark.isGap).length + (marks.dropWhile Mark.isGap).length
      = marks.length := by
    rw [← List.length_append, List.takeWhile_append_dropWhile]
  have : 0 < (marks.takeWhile Mark.isGap).length := by
    rw [List.length_pos_iff]; simpa using h
  omega

theorem afterLine?_length {marks rest : List Mark} (h : afterLine? marks = some rest) :
    rest.length ≤ marks.length := by
  unfold afterLine? at h
  have h₁ := (List.dropWhile_suffix (l := marks) (fun m => isBlank m.char)).length_le
  have h₂ := (List.dropWhile_suffix
    (l := marks.dropWhile fun m => isBlank m.char) (!·.isBreak)).length_le
  simp only at h
  split at h
  · simp at h; subst h; simp
  · next m more heq =>
    have : more.length < marks.length := by
      have : (m :: more).length ≤ marks.length := by rw [← heq]; split <;> omega
      simp only [List.length_cons] at this
      omega
    split at h <;> simp at h
    subst h; omega

end Sift.Yaml

import Sift.Text.CaseFold

/-!
# Pattern matching

A pattern is a text in which `%` stands for any run of characters and `_` for any one character;
every other character stands for itself up to simple case folding. There is no escape character.

`Like.Matches` is the relation between patterns and texts. The matcher goes through the pattern
from its end and keeps, for every suffix of the text, whether the part of the pattern already gone
through matches exactly that suffix, so that its work grows with the product of the two lengths.

Main statement: `matchesText_iff`.
-/

namespace Sift.Like

inductive Symbol where
  /-- Any run of characters, also none. -/
  | anyRun
  /-- Any one character. -/
  | anyOne
  /-- A character with this case folding. -/
  | folded (c : Char)
  deriving DecidableEq, Repr

def symbol : Char → Symbol
  | '%' => .anyRun
  | '_' => .anyOne
  | c => .folded (Text.foldCase c)

def symbols (pattern : String) : List Symbol := pattern.toList.map symbol

/-- A text, given by the case foldings of its characters, matches a pattern. -/
inductive Matches : List Symbol → List Char → Prop where
  | nil : Matches [] []
  | one {c p t} : Matches p t → Matches (.anyOne :: p) (c :: t)
  | folded {c p t} : Matches p t → Matches (.folded c :: p) (c :: t)
  | stop {p t} : Matches p t → Matches (.anyRun :: p) t
  | run {c p t} : Matches (.anyRun :: p) t → Matches (.anyRun :: p) (c :: t)

/-! ### The matcher -/

/-- The suffixes of a text that the empty pattern matches: the last one. -/
def emptyRow : List Char → List Bool
  | [] => [true]
  | _ :: t => false :: emptyRow t

/-- From the suffixes that a pattern matches, those that it matches with one more symbol before
it. -/
def extendRow (s : Symbol) : List Char → List Bool → List Bool
  | [], row =>
    match s with
    | .anyRun => [row.headD false]
    | _ => [false]
  | d :: t, row =>
    let rest := extendRow s t row.tail
    let here := match s with
      | .anyRun => row.headD false || rest.headD false
      | .anyOne => row.tail.headD false
      | .folded c => c == d && row.tail.headD false
    here :: rest

/-- For every suffix of a text, whether the pattern matches it. -/
def row (pattern : List Symbol) (text : List Char) : List Bool :=
  pattern.foldr (fun s r => extendRow s text r) (emptyRow text)

def matchesFolded (pattern : List Symbol) (text : List Char) : Bool :=
  (row pattern text).headD false

def matchesText (pattern text : String) : Bool :=
  matchesFolded (symbols pattern) (text.toList.map Text.foldCase)

/-! ### The matcher decides the relation -/

/-- The row holds, for every suffix of the text, what the relation says of the pattern and it. -/
def Decides (p : List Symbol) : List Char → List Bool → Prop
  | [], row => ∃ b, row = [b] ∧ (b = true ↔ Matches p [])
  | d :: t, row => ∃ b rest, row = b :: rest ∧ (b = true ↔ Matches p (d :: t)) ∧ Decides p t rest

/-- The first entry of a row is the verdict on the whole text. -/
theorem Decides.head {p : List Symbol} {t : List Char} {row : List Bool} (h : Decides p t row) :
    row.headD false = true ↔ Matches p t := by
  cases t with
  | nil => obtain ⟨b, rfl, hb⟩ := h; simpa using hb
  | cons d t => obtain ⟨b, rest, rfl, hb, -⟩ := h; simpa using hb

/-- The other entries are the verdicts on what is left after one character. -/
theorem Decides.tail {p : List Symbol} {d : Char} {t : List Char} {row : List Bool}
    (h : Decides p (d :: t) row) : Decides p t row.tail := by
  obtain ⟨b, rest, rfl, -, ht⟩ := h
  exact ht

theorem decides_emptyRow (t : List Char) : Decides [] t (emptyRow t) := by
  induction t with
  | nil => exact ⟨true, rfl, by simp [Matches.nil]⟩
  | cons d t ih => exact ⟨false, emptyRow t, rfl, ⟨nofun, nofun⟩, ih⟩

theorem matches_anyRun_nil (p : List Symbol) : Matches (.anyRun :: p) [] ↔ Matches p [] :=
  ⟨fun h => by cases h; assumption, .stop⟩

/-- A run stands for no character or for one more than before. -/
theorem matches_anyRun_cons (p : List Symbol) (d : Char) (t : List Char) :
    Matches (.anyRun :: p) (d :: t) ↔ Matches p (d :: t) ∨ Matches (.anyRun :: p) t :=
  ⟨fun h => by cases h <;> simp [*], fun h => h.elim .stop .run⟩

theorem matches_anyOne_cons (p : List Symbol) (d : Char) (t : List Char) :
    Matches (.anyOne :: p) (d :: t) ↔ Matches p t :=
  ⟨fun h => by cases h; assumption, .one⟩

theorem matches_folded_cons (p : List Symbol) (c d : Char) (t : List Char) :
    Matches (.folded c :: p) (d :: t) ↔ c = d ∧ Matches p t :=
  ⟨fun h => by cases h; exact ⟨rfl, by assumption⟩, fun ⟨e, h⟩ => e ▸ .folded h⟩

/-- One symbol more in front of the pattern, with the row of the shorter pattern at hand. -/
theorem decides_extendRow {s : Symbol} {p : List Symbol} {t : List Char} {row : List Bool}
    (h : Decides p t row) : Decides (s :: p) t (extendRow s t row) := by
  -- Along the text: the entry for an end comes from the row below it and, for a run, from the next
  -- entry.
  induction t generalizing row with
  | nil =>
    cases s with
    | anyRun => exact ⟨_, rfl, h.head.trans (matches_anyRun_nil p).symm⟩
    | anyOne => exact ⟨false, rfl, ⟨nofun, nofun⟩⟩
    | folded c => exact ⟨false, rfl, ⟨nofun, nofun⟩⟩
  | cons d t ih =>
    have ht := ih h.tail
    cases s with
    | anyRun =>
      refine ⟨_, _, rfl, ?_, ht⟩
      rw [Bool.or_eq_true, h.head, ht.head, matches_anyRun_cons]
    | anyOne => exact ⟨_, _, rfl, h.tail.head.trans (matches_anyOne_cons p d t).symm, ht⟩
    | folded c =>
      refine ⟨_, _, rfl, ?_, ht⟩
      rw [Bool.and_eq_true, beq_iff_eq, h.tail.head, matches_folded_cons]

/-- The row of a pattern holds its verdicts on all ends of the text. -/
theorem decides_row (p : List Symbol) (t : List Char) : Decides p t (row p t) := by
  induction p with
  | nil => exact decides_emptyRow t
  | cons s p ih => exact decides_extendRow ih

/-- The matcher, which goes through the text once for each symbol, decides the relation. -/
theorem matchesFolded_iff (p : List Symbol) (t : List Char) : matchesFolded p t ↔ Matches p t :=
  (decides_row p t).head

/-- A pattern is held against a text with the case of both folded. -/
theorem matchesText_iff (pattern text : String) :
    matchesText pattern text ↔ Matches (symbols pattern) (text.toList.map Text.foldCase) :=
  matchesFolded_iff _ _

/-! ### Operands -/

/-- The pattern that an operand stands for: itself if it has a `%`, else any text with the operand
somewhere in it. -/
def ofOperand (operand : String) : String :=
  if operand.toList.contains '%' then operand else "%" ++ operand ++ "%"

end Sift.Like

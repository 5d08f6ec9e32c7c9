import Sift.Proofs.Compile.Single
import Sift.Proofs.Like.Ilike

/-!
# Splitting a text along a pattern

To match a text with a pattern is to split it into as many pieces as the pattern has characters,
such that each character stands for its piece (`SplitsAlong`): `%` for any piece, `_` for a piece of
one character, and every other character for a piece of one character that is the same up to simple
case folding. No other character is special, and a line break is a character as any other.

The matcher finds such a split if there is one (`matches_iff_splitsAlong`). For the pattern that an
operand without `%` stands for, the split is one of some part of the text along the operand itself
(`splitsAlong_between_runs_iff`), and so it is for the columns that a comparison by `like` accepts.

Main statement: `like_iff_splitsAlong`.
-/

namespace Sift

namespace Like

open List (Forall₂)

/-- The pieces of a text that a character of a pattern stands for. -/
inductive StandsFor : Char → List Char → Prop
  | anyRun {piece : List Char} : StandsFor '%' piece
  | anyOne {d : Char} : StandsFor '_' [d]
  | itself {c d : Char} (hrun : c ≠ '%') (hone : c ≠ '_') (h : Text.foldCase c = Text.foldCase d) :
      StandsFor c [d]

/-- The text can be split into pieces that the characters of the pattern stand for, one by one. -/
def SplitsAlong (pattern text : List Char) : Prop :=
  ∃ pieces, Forall₂ StandsFor pattern pieces ∧ text = pieces.flatten

variable {c : Char} {p q t piece : List Char}

/-! ### Splits -/

theorem splitsAlong_nil_iff : SplitsAlong [] t ↔ t = [] := by
  simp [SplitsAlong]

/-- The first character of a pattern stands for the first piece of the text. -/
theorem splitsAlong_cons_iff : SplitsAlong (c :: p) t
    ↔ ∃ piece rest, t = piece ++ rest ∧ StandsFor c piece ∧ SplitsAlong p rest := by
  constructor
  · rintro ⟨pieces, hpieces, rfl⟩
    obtain ⟨piece, rest, hpiece, hrest, rfl⟩ := List.forall₂_cons_left_iff.mp hpieces
    exact ⟨piece, rest.flatten, rfl, hpiece, rest, hrest, rfl⟩
  · rintro ⟨piece, _, rfl, hpiece, rest, hrest, rfl⟩
    exact ⟨piece :: rest, .cons hpiece hrest, rfl⟩

/-- A pattern in two parts splits the text in two. -/
theorem splitsAlong_append_iff : SplitsAlong (p ++ q) t
    ↔ ∃ front back, t = front ++ back ∧ SplitsAlong p front ∧ SplitsAlong q back := by
  constructor
  · intro h
    induction p generalizing t with
    | nil => exact ⟨[], t, rfl, splitsAlong_nil_iff.mpr rfl, h⟩
    | cons c p ih =>
      obtain ⟨piece, rest, rfl, hpiece, hrest⟩ := splitsAlong_cons_iff.mp h
      obtain ⟨front, back, rfl, hfront, hback⟩ := ih hrest
      refine ⟨piece ++ front, back, (List.append_assoc ..).symm, ?_, hback⟩
      exact splitsAlong_cons_iff.mpr ⟨piece, front, rfl, hpiece, hfront⟩
  · rintro ⟨_, _, rfl, ⟨front, hfront, rfl⟩, back, hback, rfl⟩
    exact ⟨front ++ back, List.rel_append hfront hback, List.flatten_append.symm⟩

theorem splitsAlong_anyRun : SplitsAlong ['%'] t :=
  splitsAlong_cons_iff.mpr ⟨t, [], (List.append_nil t).symm, .anyRun, splitsAlong_nil_iff.mpr rfl⟩

/-- With a run on either side, a pattern matches the texts of which it matches a part. -/
theorem splitsAlong_between_runs_iff :
    SplitsAlong ('%' :: (p ++ ['%'])) t ↔ ∃ part, part <:+: t ∧ SplitsAlong p part := by
  rw [splitsAlong_cons_iff]
  constructor
  -- The first run takes what comes before the part, and the last one what comes behind it.
  · rintro ⟨before, rest, rfl, -, hrest⟩
    obtain ⟨part, behind, rfl, hpart, -⟩ := splitsAlong_append_iff.mp hrest
    refine ⟨part, ⟨before, behind, ?_⟩, hpart⟩
    exact List.append_assoc ..
  · rintro ⟨part, ⟨before, behind, rfl⟩, hpart⟩
    refine ⟨before, part ++ behind, List.append_assoc .., .anyRun, ?_⟩
    exact splitsAlong_append_iff.mpr ⟨part, behind, rfl, hpart, splitsAlong_anyRun⟩

/-! ### Matches are splits -/

/-- A character that is no wildcard stands for one character, up to case. -/
theorem standsFor_itself_iff (hrun : c ≠ '%') (hone : c ≠ '_') :
    StandsFor c piece ↔ ∃ d, piece = [d] ∧ Text.foldCase c = Text.foldCase d := by
  constructor
  · intro h
    cases h with
    | anyRun => exact absurd rfl hrun
    | anyOne => exact absurd rfl hone
    | itself _ _ h => exact ⟨_, rfl, h⟩
  · rintro ⟨d, rfl, h⟩
    exact .itself hrun hone h

/-- One character of a pattern takes off the piece that it stands for. -/
theorem matches_symbol_cons_iff {p : List Symbol} :
    Matches (symbol c :: p) (t.map Text.foldCase)
      ↔ ∃ piece rest, t = piece ++ rest ∧ StandsFor c piece
        ∧ Matches p (rest.map Text.foldCase) := by
  rcases symbol_cases c with rfl | rfl | ⟨hsymbol, hrun, hone⟩
  · show Matches (.anyRun :: p) _ ↔ _
    rw [matches_anyRun_iff]
    constructor
    · rintro ⟨_, _, hsplit, h⟩
      -- Folding keeps the number of characters, so the split of the folded text is one of the text.
      obtain ⟨piece, rest, rfl, rfl, rfl⟩ := List.map_eq_append_iff.mp hsplit
      exact ⟨piece, rest, rfl, .anyRun, h⟩
    · rintro ⟨piece, rest, rfl, -, h⟩
      exact ⟨_, _, List.map_append, h⟩
  · show Matches (.anyOne :: p) _ ↔ _
    constructor
    · intro h
      cases t with
      | nil => cases h
      | cons d t => exact ⟨[d], t, rfl, .anyOne, (matches_anyOne_cons ..).mp h⟩
    · rintro ⟨piece, rest, rfl, hpiece, h⟩
      cases hpiece with
      | anyOne => exact .one h
      | itself _ hone _ => exact absurd rfl hone
  · rw [hsymbol]
    simp only [standsFor_itself_iff hrun hone]
    constructor
    · intro h
      cases t with
      | nil => cases h
      | cons d t =>
        obtain ⟨hd, h⟩ := (matches_folded_cons ..).mp h
        exact ⟨[d], t, rfl, ⟨d, rfl, hd⟩, h⟩
    · rintro ⟨_, rest, rfl, ⟨d, rfl, hd⟩, h⟩
      exact (matches_folded_cons ..).mpr ⟨hd, h⟩

/-- A pattern matches the texts that split along it, once both are folded. -/
theorem matches_iff_splitsAlong :
    Matches (p.map symbol) (t.map Text.foldCase) ↔ SplitsAlong p t := by
  induction p generalizing t with
  | nil => rw [List.map_nil, matches_nil_iff, List.map_eq_nil_iff, splitsAlong_nil_iff]
  | cons c p ih =>
    rw [List.map_cons, matches_symbol_cons_iff, splitsAlong_cons_iff]
    simp only [ih]

/-- The matcher that runs decides whether the text splits along the pattern. -/
theorem matchesText_iff_splitsAlong (pattern text : String) :
    matchesText pattern text = true ↔ SplitsAlong pattern.toList text.toList :=
  (matchesText_iff pattern text).trans matches_iff_splitsAlong

/-- An operand without a run gets one on either side. -/
theorem toList_ofOperand {operand : String} (h : '%' ∉ operand.toList) :
    (ofOperand operand).toList = '%' :: (operand.toList ++ ['%']) := by
  simp [ofOperand, h]

end Like

/-! ### Columns -/

/-- The text of a column, for a pattern to match. Null, arrays and objects have none. -/
inductive Json.HasText : Json → String → Prop
  | string {s : String} : HasText (.string s) s
  | number {n : Number} : HasText (.number n) n.text
  | yes : HasText (.bool true) "true"
  | no : HasText (.bool false) "false"

theorem Json.scalarText?_eq_some_iff {value : Json} {text : String} :
    value.scalarText? = some text ↔ value.HasText text := by
  constructor
  · intro h
    match value, h with
    | .string _, rfl => exact .string
    | .number _, rfl => exact .number
    | .bool true, rfl => exact .yes
    | .bool false, rfl => exact .no
  · intro h
    cases h <;> rfl

/-- The text of a column is that of its value, if the row has one. -/
theorem columnText?_eq_some_iff {row : Json} {field text : String} :
    columnText? row field = some text
      ↔ ∃ value, row.field? field = some value ∧ value.HasText text := by
  simp only [columnText?, Option.bind_eq_some_iff, Json.scalarText?_eq_some_iff]

/-- An entry with `like` compiles to the pattern of its operand. -/
theorem comparison_like {allowed : FieldSet} {c : Condition} {operand : String}
    (hfield : c.field ∈ allowed) (hlike : c.Means .like)
    (hvalue : c.value.operandText? = some operand) : Compile.comparison allowed c
      = .ok (.predicate ⟨c.field, .like, .text (Like.ofOperand operand)⟩) := by
  apply Compile.comparison_eq_ok_iff.mpr
  refine ⟨hfield, .like, operator_eq_ok_iff.mpr (meantOperator?_eq_some_iff.mpr hlike), ?_⟩
  exact comparisonWith_eq_ok_iff.mpr (.inr (.inr (.inl ⟨rfl, operand, hvalue, rfl⟩)))

/-- **Matching is splitting.** A pattern matches exactly the texts that can be split along it.

So an entry that compares an allowed column by `like` with an operand without `%` compiles to a
comparison that accepts a row exactly if the column holds a string, a number or a truth value, of
whose text some part can be split along the operand. -/
theorem like_iff_splitsAlong :
    (∀ pattern text : String,
        Like.matchesText pattern text = true ↔ Like.SplitsAlong pattern.toList text.toList)
      ∧ ∀ {allowed : FieldSet} {c : Condition} {operand : String}, c.field ∈ allowed →
        c.Means .like → c.value.operandText? = some operand → '%' ∉ operand.toList →
        ∃ p, Compile.comparison allowed c = .ok (.predicate p) ∧ ∀ row, p.holds row = true
          ↔ ∃ value text, row.field? c.field = some value ∧ value.HasText text
            ∧ ∃ part, part <:+: text.toList ∧ Like.SplitsAlong operand.toList part := by
  refine ⟨Like.matchesText_iff_splitsAlong, ?_⟩
  intro allowed c operand hfield hlike hvalue hoperand
  refine ⟨_, comparison_like hfield hlike hvalue, ?_⟩
  intro row
  rw [predicate_like_holds_iff]
  simp only [columnText?_eq_some_iff, Like.matchesText_iff_splitsAlong,
    Like.toList_ofOperand hoperand, Like.splitsAlong_between_runs_iff]
  constructor
  · rintro ⟨text, ⟨value, hcolumn, htext⟩, hpart⟩
    exact ⟨value, text, hcolumn, htext, hpart⟩
  · rintro ⟨value, text, hcolumn, htext, hpart⟩
    exact ⟨text, ⟨value, hcolumn, htext⟩, hpart⟩

/-! ### A text of two lines -/

namespace Sample

/-- A dot stands for itself only, and a line break is one character; a name that is null is like
nothing. -/
theorem name_like_operand :
    "name" ∈ guests.queryable ∧ Condition.Means ⟨"name", some "Like", .string "a.b_"⟩ .like
      ∧ '%' ∉ "a.b_".toList ∧ Like.matchesText "a.b_" "A.B\n" = true
      ∧ ∃ p, Compile.comparison guests.queryable ⟨"name", some "Like", .string "a.b_"⟩
          = .ok (.predicate p)
        ∧ p.holds (guest "xA.B\ny" 30) = true ∧ p.holds (.object [("name", .null)]) = false := by
  have hfield : "name" ∈ guests.queryable := by decide
  have hlike : Condition.Means ⟨"name", some "Like", .string "a.b_"⟩ .like :=
    meantOperator?_eq_some_iff.mp (by decide +kernel)
  have hoperand : '%' ∉ "a.b_".toList := by decide
  have hpart : Like.SplitsAlong "a.b_".toList "A.B\n".toList := by
    refine ⟨[['A'], ['.'], ['B'], ['\n']], .cons ?_ (.cons ?_ (.cons ?_ (.cons .anyOne .nil))), rfl⟩
    · exact .itself (by decide) (by decide) (by decide +kernel)
    · exact .itself (by decide) (by decide) rfl
    · exact .itself (by decide) (by decide) (by decide +kernel)
  obtain ⟨hmatches, haccepts⟩ := like_iff_splitsAlong
  obtain ⟨p, hp, hholds⟩ := haccepts hfield hlike rfl hoperand
  refine ⟨hfield, hlike, hoperand, (hmatches _ _).mpr hpart, p, hp, ?_, ?_⟩
  · exact (hholds _).mpr ⟨_, "xA.B\ny", rfl, .string, "A.B\n".toList, ⟨['x'], ['y'], rfl⟩, hpart⟩
  · rw [← Bool.not_eq_true, hholds]
    rintro ⟨_, _, ⟨⟩, ⟨⟩, -⟩

end Sample

end Sift

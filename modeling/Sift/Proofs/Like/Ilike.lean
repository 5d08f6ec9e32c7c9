import Mathlib.Data.List.Infix
import Sift.Like
import Sift.Proofs.Text.CaseFold

/-!
# Patterns in memory and in the database

The database matches with `ILIKE`, which it documents by what the characters of a pattern stand for
(`IsIlike`). In memory a backslash is a character like any other, and characters are the same if
their simple case foldings are; for `ILIKE` a backslash makes the next character stand for itself,
and case does not matter to ASCII letters.

So a pattern can match differently only if it has a backslash or one of the two characters that fold
into ASCII without being part of it. If it also has a character that no ASCII character is equal to
up to case, then no ASCII text matches, here or there. `Portable` are the other patterns and these;
on ASCII texts they match alike (`matches_iff_ilike`). Every other pattern has a text on which it
does not, unless it ends in an open escape, of which the database says nothing
(`exists_text_of_not_portable`).

Main statements: `matches_iff_ilike` and `exists_text_of_not_portable`.
-/

namespace Sift.Like

open Text (IsAscii)

/-! ## ILIKE -/

/-- How PostgreSQL matches a text with `ILIKE` and no `ESCAPE` clause, pattern first. What a
backslash at the end of a pattern does is left open. -/
structure IsIlike (ilike : List Char → List Char → Prop) : Prop where
  nil {t} : ilike [] t ↔ t = []
  anyRun {p t} : ilike ('%' :: p) t ↔ ∃ before after, t = before ++ after ∧ ilike p after
  anyOne {p t} : ilike ('_' :: p) t ↔ ∃ d rest, t = d :: rest ∧ ilike p rest
  escaped {c p t} :
    ilike ('\\' :: c :: p) t ↔ ∃ d rest, t = d :: rest ∧ d.toLower = c.toLower ∧ ilike p rest
  literal {c p t} (hrun : c ≠ '%') (hone : c ≠ '_') (hescape : c ≠ '\\') :
    ilike (c :: p) t ↔ ∃ d rest, t = d :: rest ∧ d.toLower = c.toLower ∧ ilike p rest

/-- A matcher that does what is documented. A pattern with an open escape matches nothing. -/
def ilike : List Char → List Char → Bool
  | [], t => t.isEmpty
  | c :: p, t =>
    if c = '%' then t.tails.any (ilike p)
    else if c = '_' then
      match t with
      | [] => false
      | _ :: rest => ilike p rest
    else if c = '\\' then
      match p with
      | [] => false
      | e :: p =>
        match t with
        | [] => false
        | d :: rest => d.toLower == e.toLower && ilike p rest
    else
      match t with
      | [] => false
      | d :: rest => d.toLower == c.toLower && ilike p rest

/-- The rules can be followed: this matcher does. -/
theorem isIlike_ilike : IsIlike (ilike · ·) where
  nil {t} := by
    cases t <;> simp [ilike.eq_def]
  anyRun {p t} := by
    rw [ilike.eq_def]
    simp only [if_true, List.any_eq_true, List.mem_tails]
    constructor
    · rintro ⟨after, ⟨before, rfl⟩, h⟩
      exact ⟨before, after, rfl, h⟩
    · rintro ⟨before, after, rfl, h⟩
      exact ⟨after, ⟨before, rfl⟩, h⟩
  anyOne {p t} := by
    cases t <;> simp [ilike.eq_def ('_' :: _), and_assoc]
  escaped {c p t} := by
    cases t <;> simp [ilike.eq_def ('\\' :: _), and_assoc]
  literal {c p t} hrun hone hescape := by
    cases t <;> simp [ilike.eq_def (c :: _), hrun, hone, hescape, and_assoc]

/-- Whether every backslash that escapes a character has one to escape. -/
def closed : List Char → Bool
  | [] => true
  | c :: p =>
    if c = '\\' then
      match p with
      | [] => false
      | _ :: rest => closed rest
    else closed p

/-- The pattern is ASCII and has no backslash, or it has a character that is no ASCII character up
to case. -/
def Portable (p : List Char) : Prop :=
  (∀ c ∈ p, IsAscii c ∧ c ≠ '\\') ∨ ∃ c ∈ p, ¬ IsAscii (Text.foldCase c)

/-! ## What the parts of a pattern match -/

theorem symbol_of_ne {c : Char} (hrun : c ≠ '%') (hone : c ≠ '_') :
    symbol c = .folded (Text.foldCase c) := by
  unfold symbol
  split
  · exact absurd rfl hrun
  · exact absurd rfl hone
  · rfl

/-- A character has a kind: a wildcard, or one that stands for itself. -/
theorem symbol_cases (c : Char) :
    c = '%' ∨ c = '_' ∨ symbol c = .folded (Text.foldCase c) ∧ c ≠ '%' ∧ c ≠ '_' := by
  by_cases hrun : c = '%'
  · exact .inl hrun
  by_cases hone : c = '_'
  · exact .inr (.inl hone)
  · exact .inr (.inr ⟨symbol_of_ne hrun hone, hrun, hone⟩)

variable {p : List Symbol} {t : List Char}

theorem matches_nil_iff : Matches [] t ↔ t = [] := by
  constructor
  · rintro ⟨⟩
    rfl
  · rintro rfl
    exact .nil

/-- A run takes any beginning of the text. -/
theorem matches_anyRun_iff :
    Matches (.anyRun :: p) t ↔ ∃ before after, t = before ++ after ∧ Matches p after := by
  constructor
  · intro h
    induction t with
    | nil => exact ⟨[], [], rfl, (matches_anyRun_nil p).mp h⟩
    | cons d t ih =>
      rcases (matches_anyRun_cons p d t).mp h with hstop | hrun
      · exact ⟨[], d :: t, rfl, hstop⟩
      · obtain ⟨before, after, ht, hafter⟩ := ih hrun
        exact ⟨d :: before, after, congrArg (d :: ·) ht, hafter⟩
  · rintro ⟨before, after, rfl, h⟩
    induction before with
    | nil => exact .stop h
    | cons d before ih => exact .run ih

/-- A character that stands for itself has to be in the text as often as in the pattern. -/
theorem count_le_of_matches {c : Char} (h : Matches p t) : p.count (.folded c) ≤ t.count c := by
  induction h with
  | nil => exact Nat.le_refl _
  | one h ih =>
    rw [List.count_cons_of_ne (by simp)]
    exact Nat.le_trans ih List.count_le_count_cons
  | folded h ih =>
    rw [List.count_cons, List.count_cons]
    grind
  | stop h ih =>
    rw [List.count_cons_of_ne (by simp)]
    exact ih
  | run h ih => exact Nat.le_trans ih List.count_le_count_cons

namespace IsIlike

variable {ilike : List Char → List Char → Prop} {p t : List Char} {c d : Char}

theorem not_anyOne_nil (h : IsIlike ilike) : ¬ ilike ('_' :: p) [] := by
  rw [h.anyOne]
  rintro ⟨d, rest, hnil, -⟩
  cases hnil

theorem anyOne_cons (h : IsIlike ilike) : ilike ('_' :: p) (d :: t) ↔ ilike p t := by
  rw [h.anyOne]
  simp [and_assoc]

theorem not_literal_nil (h : IsIlike ilike) (hrun : c ≠ '%') (hone : c ≠ '_') (hescape : c ≠ '\\') :
    ¬ ilike (c :: p) [] := by
  rw [h.literal hrun hone hescape]
  rintro ⟨d, rest, hnil, -⟩
  cases hnil

/-- Any other character takes one that is equal to it without regard to case. -/
theorem literal_cons (h : IsIlike ilike) (hrun : c ≠ '%') (hone : c ≠ '_') (hescape : c ≠ '\\') :
    ilike (c :: p) (d :: t) ↔ d.toLower = c.toLower ∧ ilike p t := by
  rw [h.literal hrun hone hescape]
  simp [and_assoc]

end IsIlike

/-! ## Portable patterns -/

section

variable {ilike : List Char → List Char → Prop} {p t : List Char}

/-- A pattern of ASCII characters without a backslash matches the same ASCII texts in memory and
with `ILIKE`. -/
theorem matches_iff_ilike_of_isAscii (hilike : IsIlike ilike)
    (hp : ∀ c ∈ p, IsAscii c ∧ c ≠ '\\') (ht : ∀ c ∈ t, IsAscii c) :
    Matches (p.map symbol) (t.map Text.foldCase) ↔ ilike p t := by
  induction p generalizing t with
  | nil => rw [List.map_nil, matches_nil_iff, List.map_eq_nil_iff, hilike.nil]
  | cons c p ih =>
    obtain ⟨⟨hc, hescape⟩, hrest⟩ := List.forall_mem_cons.mp hp
    rw [List.map_cons]
    -- Run, wildcard or letter: both ways take off the same beginnings of the text.
    rcases symbol_cases c with rfl | rfl | ⟨hsymbol, hrun, hone⟩
    · show Matches (.anyRun :: p.map symbol) _ ↔ _
      rw [matches_anyRun_iff, hilike.anyRun]
      constructor
      · rintro ⟨before, after, ht', h⟩
        obtain ⟨before, after, rfl, rfl, rfl⟩ := List.map_eq_append_iff.mp ht'
        exact ⟨before, after, rfl, (ih hrest (List.forall_mem_append.mp ht).2).mp h⟩
      · rintro ⟨before, after, rfl, h⟩
        exact ⟨_, _, List.map_append, (ih hrest (List.forall_mem_append.mp ht).2).mpr h⟩
    · show Matches (.anyOne :: p.map symbol) _ ↔ _
      cases t with
      | nil => exact iff_of_false (by rintro ⟨⟩) hilike.not_anyOne_nil
      | cons d t =>
        rw [List.map_cons, matches_anyOne_cons, hilike.anyOne_cons]
        exact ih hrest (List.forall_mem_cons.mp ht).2
    · rw [hsymbol]
      cases t with
      | nil => exact iff_of_false (by rintro ⟨⟩) (hilike.not_literal_nil hrun hone hescape)
      | cons d t =>
        obtain ⟨hd, ht⟩ := List.forall_mem_cons.mp ht
        rw [List.map_cons, matches_folded_cons, hilike.literal_cons hrun hone hescape, ih hrest ht,
          Text.foldCase_of_isAscii hc, Text.foldCase_of_isAscii hd, eq_comm]

/-- In memory, a character that no ASCII character is equal to up to case keeps a pattern from
matching any ASCII text. -/
theorem not_matches_of_foldCase (hp : ∃ c ∈ p, ¬ IsAscii (Text.foldCase c))
    (ht : ∀ c ∈ t, IsAscii c) : ¬ Matches (p.map symbol) (t.map Text.foldCase) := by
  intro h
  obtain ⟨c, hc, hfold⟩ := hp
  have hsymbol : symbol c = .folded (Text.foldCase c) := by
    apply symbol_of_ne
    · rintro rfl
      exact hfold (by decide)
    · rintro rfl
      exact hfold (by decide)
  have hmem : Symbol.folded (Text.foldCase c) ∈ p.map symbol := hsymbol ▸ List.mem_map_of_mem hc
  have hcount := Nat.lt_of_lt_of_le (List.count_pos_iff.mpr hmem) (count_le_of_matches h)
  obtain ⟨d, hd, hdc⟩ := List.mem_map.mp (List.count_pos_iff.mp hcount)
  apply hfold
  rw [← hdc, Text.foldCase_of_isAscii (ht d hd)]
  exact Text.isAscii_toLower (ht d hd)

/-- For `ILIKE`, every character beyond ASCII does: a pattern that matches an ASCII text has
none. -/
theorem isAscii_of_ilike (hilike : IsIlike ilike) {p t : List Char} (ht : ∀ c ∈ t, IsAscii c)
    (h : ilike p t) : ∀ c ∈ p, IsAscii c := by
  -- An escape and the character that it escapes are one step.
  fun_induction closed p generalizing t with
  | case1 => exact fun c hc => absurd hc List.not_mem_nil
  | case2 => exact List.forall_mem_singleton.mpr (by decide)
  | case3 c p ih =>
    obtain ⟨d, rest, rfl, hdc, hrest⟩ := hilike.escaped.mp h
    obtain ⟨hd, ht⟩ := List.forall_mem_cons.mp ht
    have hc := Text.isAscii_of_toLower (hdc ▸ Text.isAscii_toLower hd)
    exact List.forall_mem_cons.mpr ⟨by decide, List.forall_mem_cons.mpr ⟨hc, ih ht hrest⟩⟩
  | case4 c p hescape ih =>
    rw [List.forall_mem_cons]
    rcases symbol_cases c with rfl | rfl | ⟨-, hrun, hone⟩
    · obtain ⟨before, after, rfl, hafter⟩ := hilike.anyRun.mp h
      exact ⟨by decide, ih (List.forall_mem_append.mp ht).2 hafter⟩
    · obtain ⟨d, rest, rfl, hrest⟩ := hilike.anyOne.mp h
      exact ⟨by decide, ih (List.forall_mem_cons.mp ht).2 hrest⟩
    · obtain ⟨d, rest, rfl, hdc, hrest⟩ := (hilike.literal hrun hone hescape).mp h
      obtain ⟨hd, ht⟩ := List.forall_mem_cons.mp ht
      exact ⟨Text.isAscii_of_toLower (hdc ▸ Text.isAscii_toLower hd), ih ht hrest⟩

/-- On a portable pattern and an ASCII text, the two ways to match agree. -/
theorem matches_iff_ilike (hilike : IsIlike ilike) (hp : Portable p) (ht : ∀ c ∈ t, IsAscii c) :
    Matches (p.map symbol) (t.map Text.foldCase) ↔ ilike p t := by
  rcases hp with hp | ⟨c, hc, hfold⟩
  · exact matches_iff_ilike_of_isAscii hilike hp ht
  -- One character of the pattern is equal to none in the text, so neither way matches.
  · refine iff_of_false (not_matches_of_foldCase ⟨c, hc, hfold⟩ ht) fun h => ?_
    have hascii := isAscii_of_ilike hilike ht h c hc
    exact hfold (Text.isAscii_foldCase_iff.mpr (.inl hascii))

/-! ## Other patterns -/

/-- A pattern whose characters fold into ASCII matches an ASCII text. -/
theorem exists_matches (hp : ∀ c ∈ p, IsAscii (Text.foldCase c)) :
    ∃ t : List Char, (∀ c ∈ t, IsAscii c) ∧ Matches (p.map symbol) (t.map Text.foldCase) := by
  induction p with
  | nil => exact ⟨[], List.forall_mem_nil _, .nil⟩
  | cons c p ih =>
    obtain ⟨hc, hp⟩ := List.forall_mem_cons.mp hp
    obtain ⟨t, ht, hmatches⟩ := ih hp
    -- A run takes nothing, and a wildcard takes any letter.
    rcases symbol_cases c with rfl | rfl | ⟨hsymbol, -, -⟩
    · exact ⟨t, ht, .stop hmatches⟩
    · exact ⟨'a' :: t, List.forall_mem_cons.mpr ⟨by decide, ht⟩, .one hmatches⟩
    · obtain ⟨d, hd, hdc⟩ := Text.exists_isAscii_foldCase hc
      refine ⟨d :: t, List.forall_mem_cons.mpr ⟨hd, ht⟩, ?_⟩
      rw [List.map_cons, List.map_cons, hsymbol, hdc]
      exact .folded hmatches

/-- A text that `ILIKE` matches needs no backslash but for those that another one escapes. -/
theorem exists_ilike (hilike : IsIlike ilike) (hclosed : closed p) (hp : ∀ c ∈ p, IsAscii c) :
    ∃ t, (∀ c ∈ t, IsAscii c) ∧ ilike p t ∧ t.count '\\' ≤ p.count '\\'
      ∧ ('\\' ∈ p → t.count '\\' < p.count '\\') := by
  fun_induction closed p with
  | case1 => exact ⟨[], List.forall_mem_nil _, hilike.nil.mpr rfl, Nat.le_refl _, nofun⟩
  | case2 => cases hclosed
  -- The text has the escaped character, but not the backslash before it.
  | case3 c p ih =>
    obtain ⟨hc, hp⟩ := List.forall_mem_cons.mp (List.forall_mem_cons.mp hp).2
    obtain ⟨t, ht, hmatches, hle, -⟩ := ih hclosed hp
    refine ⟨c :: t, List.forall_mem_cons.mpr ⟨hc, ht⟩,
      hilike.escaped.mpr ⟨c, t, rfl, rfl, hmatches⟩, ?_⟩
    have hlt : (c :: t).count '\\' < ('\\' :: c :: p).count '\\' := by
      rw [List.count_cons_self, List.count_cons, List.count_cons]
      omega
    exact ⟨Nat.le_of_lt hlt, fun _ => hlt⟩
  -- No other character adds a backslash to the pattern or to the text.
  | case4 c p hescape ih =>
    obtain ⟨hc, hp⟩ := List.forall_mem_cons.mp hp
    obtain ⟨t, ht, hmatches, hle, hlt⟩ := ih hclosed hp
    have hcount : (c :: p).count '\\' = p.count '\\' := List.count_cons_of_ne hescape
    have hmem : '\\' ∈ c :: p ↔ '\\' ∈ p := by simp [Ne.symm hescape]
    rw [hcount, hmem]
    rcases symbol_cases c with rfl | rfl | ⟨-, hrun, hone⟩
    · exact ⟨t, ht, hilike.anyRun.mpr ⟨[], t, rfl, hmatches⟩, hle, hlt⟩
    · refine ⟨'a' :: t, List.forall_mem_cons.mpr ⟨by decide, ht⟩,
        hilike.anyOne_cons.mpr hmatches, ?_⟩
      rw [List.count_cons_of_ne (by decide)]
      exact ⟨hle, hlt⟩
    · refine ⟨c :: t, List.forall_mem_cons.mpr ⟨hc, ht⟩,
        (hilike.literal_cons hrun hone hescape).mpr ⟨rfl, hmatches⟩, ?_⟩
      rw [List.count_cons_of_ne hescape]
      exact ⟨hle, hlt⟩

/-- Over ASCII, only a backslash makes a pattern other than portable. -/
theorem backslash_mem_of_not_portable (hp : ¬ Portable p) (hascii : ∀ c ∈ p, IsAscii c) :
    '\\' ∈ p :=
  Classical.byContradiction fun hmem =>
    hp (.inl fun c hc => ⟨hascii c hc, fun heq => hmem (heq ▸ hc)⟩)

/-- In memory, the text of a match has all the backslashes of the pattern. -/
theorem count_backslash_le (ht : ∀ c ∈ t, IsAscii c)
    (h : Matches (p.map symbol) (t.map Text.foldCase)) : p.count '\\' ≤ t.count '\\' := by
  have hsymbols : p.count '\\' ≤ (p.map symbol).count (.folded '\\') :=
    List.count_le_count_map (f := symbol)
  have htext : (t.map Text.foldCase).count '\\' = t.count '\\' := by
    rw [List.count_eq_countP, List.count_eq_countP, List.countP_map]
    apply List.countP_congr
    intro c hc
    -- All of ASCII is gone through by computation.
    have hiff := Text.forall_isAscii (P := fun c => Text.foldCase c = '\\' ↔ c = '\\')
      (by decide +kernel) (ht c hc)
    simpa using hiff
  have hmatch := count_le_of_matches (c := '\\') h
  omega

/-- Of the ASCII texts without a backslash that `ILIKE` matches, no other pattern matches any in
memory. -/
theorem not_matches_of_ilike (hilike : IsIlike ilike) (hp : ¬ Portable p)
    (ht : ∀ c ∈ t, IsAscii c) (hescape : '\\' ∉ t) (h : ilike p t) :
    ¬ Matches (p.map symbol) (t.map Text.foldCase) := by
  intro hmatches
  have hmem := backslash_mem_of_not_portable hp (isAscii_of_ilike hilike ht h)
  have hle := count_backslash_le ht hmatches
  rw [List.count_eq_zero.mpr hescape] at hle
  have hpos := List.count_pos_iff.mpr hmem
  omega

/-- On a pattern that is not portable, the two ways disagree over some ASCII text. -/
theorem exists_text_of_not_portable (hilike : IsIlike ilike) (hclosed : closed p)
    (hp : ¬ Portable p) : ∃ t : List Char, (∀ c ∈ t, IsAscii c)
      ∧ ¬ (Matches (p.map symbol) (t.map Text.foldCase) ↔ ilike p t) := by
  by_cases hascii : ∀ c ∈ p, IsAscii c
  · -- Some text that `ILIKE` matches has too few backslashes for a match in memory.
    obtain ⟨t, ht, hmatches, -, hlt⟩ := exists_ilike hilike hclosed hascii
    refine ⟨t, ht, fun hiff => ?_⟩
    have hle := count_backslash_le ht (hiff.mpr hmatches)
    have hlt := hlt (backslash_mem_of_not_portable hp hascii)
    omega
  · -- What lies beyond ASCII folds into it, so that some text matches in memory.
    have hfold : ∀ c ∈ p, IsAscii (Text.foldCase c) := fun c hc =>
      Classical.byContradiction fun hnot => hp (.inr ⟨c, hc, hnot⟩)
    obtain ⟨t, ht, hmatches⟩ := exists_matches hfold
    exact ⟨t, ht, fun hiff => hascii (isAscii_of_ilike hilike ht (hiff.mp hmatches))⟩

end

/-! ## Operands -/

/-- The runs around an operand do not matter to whether its pattern is portable. -/
theorem portable_ofOperand {operand : String} :
    Portable (ofOperand operand).toList ↔ Portable operand.toList := by
  unfold ofOperand
  split
  · rfl
  · have hmem (c : Char) :
        c ∈ ("%" ++ operand ++ "%").toList ↔ c ∈ operand.toList ∨ c = '%' := by
      have hsplit : ("%" ++ operand ++ "%").toList = '%' :: (operand.toList ++ ['%']) := by simp
      rw [hsplit, List.mem_cons, List.mem_append, List.mem_singleton]
      grind
    constructor
    · rintro (hplain | ⟨c, hc, hfold⟩)
      · exact .inl fun c hc => hplain c ((hmem c).mpr (.inl hc))
      -- The run folds into ASCII, so it is not the character that nothing in ASCII equals.
      · rcases (hmem c).mp hc with hc | rfl
        · exact .inr ⟨c, hc, hfold⟩
        · exact absurd (by decide) hfold
    · rintro (hplain | ⟨c, hc, hfold⟩)
      · left
        intro c hc
        rcases (hmem c).mp hc with hc | rfl
        · exact hplain c hc
        · decide
      · exact .inr ⟨c, (hmem c).mpr (.inl hc), hfold⟩

theorem closed_cons_of_ne {c : Char} {p : List Char} (hc : c ≠ '\\') :
    closed (c :: p) = closed p := by
  rw [closed.eq_def]
  exact if_neg hc

/-- Only a backslash at the end can be left without a character to escape. -/
theorem closed_append_singleton {c : Char} (hc : c ≠ '\\') (p : List Char) : closed (p ++ [c]) := by
  fun_induction closed p with
  | case1 => simp [closed, hc]
  | case2 => simp [closed]
  | case3 d p ih => simpa [closed] using ih
  | case4 d p hd ih =>
    rw [List.cons_append, closed_cons_of_ne hd]
    exact ih

/-- The pattern of an operand without `%` is closed, as the last `%` is there to be escaped. -/
theorem closed_ofOperand {operand : String} (h : '%' ∈ operand.toList → closed operand.toList) :
    closed (ofOperand operand).toList := by
  by_cases hrun : '%' ∈ operand.toList
  · have hpattern : ofOperand operand = operand := by simp [ofOperand, hrun]
    rw [hpattern]
    exact h hrun
  · have hpattern : (ofOperand operand).toList = '%' :: operand.toList ++ ['%'] := by
      simp [ofOperand, hrun]
    rw [hpattern]
    exact closed_append_singleton (by decide) _

end Sift.Like

import Sift.Proofs.Sql.Reading

/-!
# Names of types

The name of a type stands in a statement as it is, inside of a cast. Nothing is asked of it but that
it has no quote and no `$` and that its parentheses match (`IsPlain`). Then it is made of words and
symbols in whole groups, so it cannot reach beyond its cast, whatever words it has.

The matching of parentheses is counted three times over: in the characters, in the tokens, and in
the groups that are open. Each count determines the next.

Main statements: `tokens?_typeName` and `tokensOf_typeItems`.
-/

namespace Sift.Sql

/-! ## Plain names -/

/-- The number of open groups after a character; no group is closed that was not opened. -/
def parenStep (depth : Nat) (c : Char) : Option Nat :=
  if c = '(' then some (depth + 1)
  else if c = ')' then if depth = 0 then none else some (depth - 1)
  else some depth

/-- The character begins neither a quoted text nor a placeholder. -/
def IsUnquoted (c : Char) : Prop := c ≠ '"' ∧ c ≠ '\'' ∧ c ≠ '$'

instance (c : Char) : Decidable (IsUnquoted c) := inferInstanceAs (Decidable (_ ∧ _ ∧ _))

/-- A type name without quotes and `$`, whose parentheses match. -/
structure IsPlain (type : String) : Prop where
  unquoted : ∀ c ∈ type.toList, IsUnquoted c
  balanced : type.toList.foldlM parenStep 0 = some 0

instance (type : String) : Decidable (IsPlain type) :=
  decidable_of_iff
    (type.toList.all (fun c => decide (IsUnquoted c)) = true
      ∧ type.toList.foldlM parenStep 0 = some 0)
    ⟨fun h => ⟨by simpa using h.1, h.2⟩, fun h => ⟨by simpa using h.unquoted, h.balanced⟩⟩

def ColumnTypes.IsPlain (types : ColumnTypes) : Prop :=
  ∀ column type, types.get? column = some type → Sql.IsPlain type

theorem ColumnTypes.isPlain_of_forall {types : ColumnTypes}
    (h : ∀ e ∈ types.entries, Sql.IsPlain e.2) : types.IsPlain := by
  intro column type hget
  obtain ⟨before, after, hentries, -⟩ := List.lookup_eq_some_iff.mp hget
  exact h (column, type) (by simp [hentries])

def typeTokens (type : String) : List (Token Param) :=
  ((tokens? type.toList).bind (resolve [])).getD []

def typeItems (type : String) : List Item := (nest? (typeTokens type)).getD []

/-! ## From characters to tokens -/

def depthStep {α : Type} (depth : Nat) : Token α → Option Nat
  | .opening => some (depth + 1)
  | .closing => if depth = 0 then none else some (depth - 1)
  | _ => some depth

namespace Mode

/-- Nothing is pending but a word or a symbol. -/
def IsPlain : Mode → Prop
  | .idle | .word _ | .symbol _ => True
  | _ => False

end Mode

/-- What is read off a character: tokens without operands that open and close as many groups. -/
structure Keeps (c : Char) (r : List (Token Nat) × Mode) : Prop where
  mode : r.2.IsPlain
  operands : operandsOf r.1 = []
  depth : ∀ depth, r.1.foldlM depthStep depth = parenStep depth c

theorem parenStep_eq {c : Char} (hopening : c ≠ '(') (hclosing : c ≠ ')') (depth : Nat) :
    parenStep depth c = some depth := by
  simp [parenStep, hopening, hclosing]

/-- An unquoted character begins a token without a placeholder and moves the depth as it does
itself. -/
theorem exists_start {c : Char} (h : IsUnquoted c) : ∃ r, Mode.start c = some r ∧ Keeps c r := by
  obtain ⟨hname, htext, hdollar⟩ := h
  by_cases hopening : c = '('
  · subst hopening
    exact ⟨_, rfl, trivial, rfl, fun _ => rfl⟩
  by_cases hclosing : c = ')'
  · subst hclosing
    refine ⟨_, rfl, trivial, rfl, fun depth => ?_⟩
    cases depth <;> rfl
  have hdepth := parenStep_eq hopening hclosing
  -- What is left are blanks, characters of words, operators and single symbols.
  simp only [Mode.start, hopening, hclosing, hname, htext, hdollar, if_false]
  split_ifs <;> exact ⟨_, rfl, trivial, rfl, fun depth => (hdepth depth).symm⟩

theorem exists_startAfter {c : Char} (h : IsUnquoted c) {t : Token Nat} (ht : t.operand? = none)
    (hdepth : ∀ depth, depthStep depth t = some depth) :
    ∃ r, Mode.startAfter t c = some r ∧ Keeps c r := by
  obtain ⟨r, hr, hmode, hoperands, hkeeps⟩ := exists_start h
  refine ⟨(t :: r.1, r.2), by simp [Mode.startAfter, hr], hmode, by simp [ht, hoperands], ?_⟩
  intro depth
  simp [hdepth, hkeeps]

theorem exists_step {m : Mode} (hm : m.IsPlain) {c : Char} (h : IsUnquoted c) :
    ∃ r, m.step c = some r ∧ Keeps c r := by
  cases m with
  | idle => exact exists_start h
  | word w =>
    simp only [Mode.step]
    split
    · next hc =>
      have hword : isWordChar c = true := by simpa [h.2.2] using hc
      -- A character of a word is no parenthesis, and it only makes the open word longer.
      have hdepth := parenStep_eq (c := c) (by rintro rfl; cases hword) (by rintro rfl; cases hword)
      exact ⟨_, rfl, trivial, rfl, fun d => (hdepth d).symm⟩
    · exact exists_startAfter h rfl fun _ => rfl
  | symbol w =>
    simp only [Mode.step]
    split
    · next hc =>
      have hdepth := parenStep_eq (c := c) (by rintro rfl; cases hc) (by rintro rfl; cases hc)
      exact ⟨_, rfl, trivial, rfl, fun d => (hdepth d).symm⟩
    · exact exists_startAfter h rfl fun _ => rfl
  | _ => cases hm

/-- A plain type name scans to tokens that nest as its parentheses do. -/
theorem exists_scan {cs : List Char} (h : ∀ c ∈ cs, IsUnquoted c) {m : Mode} (hm : m.IsPlain) :
    ∃ r, scan m cs = some r ∧ r.2.IsPlain ∧ operandsOf r.1 = []
      ∧ ∀ depth, r.1.foldlM depthStep depth = cs.foldlM parenStep depth := by
  -- Character by character, the mode stays plain and the depth keeps up.
  induction cs generalizing m with
  | nil => exact ⟨_, rfl, hm, rfl, fun _ => rfl⟩
  | cons c cs ih =>
    obtain ⟨hc, hcs⟩ := List.forall_mem_cons.mp h
    obtain ⟨r, hr, hmode, hoperands, hdepth⟩ := exists_step hm hc
    obtain ⟨s, hs, hmode', hoperands', hdepth'⟩ := ih hcs hmode
    refine ⟨(r.1 ++ s.1, s.2), by simp [scan, hr, hs], hmode', by simp [hoperands, hoperands'], ?_⟩
    intro depth
    simp [hdepth, hdepth']

/-- They have no placeholders and close all the parentheses that they open. -/
theorem exists_tokens {type : String} (h : IsPlain type) :
    ∃ ts, tokens? type.toList = some ts ∧ operandsOf ts = []
      ∧ ts.foldlM depthStep 0 = some 0 := by
  obtain ⟨⟨s, m⟩, hs, hmode, hoperands, hdepth⟩ := exists_scan h.unquoted (m := .idle) trivial
  -- What is pending at the end is one more token, and it is no parenthesis.
  have hlast : ∃ last, m.finish = some last ∧ operandsOf last = []
      ∧ ∀ depth, last.foldlM depthStep depth = some depth := by
    cases m with
    | idle => exact ⟨_, rfl, rfl, fun _ => rfl⟩
    | word w => exact ⟨_, rfl, rfl, fun _ => rfl⟩
    | symbol w => exact ⟨_, rfl, rfl, fun _ => rfl⟩
    | _ => cases hmode
  obtain ⟨last, hfinish, hnone, hsame⟩ := hlast
  refine ⟨s ++ last, tokens?_eq_some_iff.mpr ⟨s, m, last, hs, hfinish, rfl⟩, ?_, ?_⟩
  · rw [operandsOf_append, hoperands, hnone, List.append_nil]
  · rw [List.foldlM_append, hdepth, h.balanced]
    exact hsame 0

/-! ## From tokens to groups -/

theorem exists_bind? {t : Token Nat} (h : t.operand? = none) :
    ∃ t' : Token Param, t.bind? (lookup []) = some t' ∧ t'.operand? = none
      ∧ (∀ n ts, number n (t' :: ts) = t :: number n ts)
      ∧ ∀ depth, depthStep depth t' = depthStep depth t := by
  cases t with
  | word s => exact ⟨.word s, rfl, rfl, fun _ _ => rfl, fun _ => rfl⟩
  | name s => exact ⟨.name s, rfl, rfl, fun _ _ => rfl, fun _ => rfl⟩
  | symbol s => exact ⟨.symbol s, rfl, rfl, fun _ _ => rfl, fun _ => rfl⟩
  | operand n => cases h
  | opening => exact ⟨.opening, rfl, rfl, fun _ _ => rfl, fun _ => rfl⟩
  | closing => exact ⟨.closing, rfl, rfl, fun _ _ => rfl, fun _ => rfl⟩

/-- Tokens without placeholders are resolved without parameters, to tokens that no numbering
changes. -/
theorem exists_resolve {ts : List (Token Nat)} (h : operandsOf ts = []) :
    ∃ ts', resolve [] ts = some ts' ∧ operandsOf ts' = [] ∧ (∀ n, number n ts' = ts)
      ∧ ∀ depth, ts'.foldlM depthStep depth = ts.foldlM depthStep depth := by
  unfold resolve
  induction ts with
  | nil => exact ⟨[], rfl, rfl, fun _ => rfl, fun _ => rfl⟩
  | cons t ts ih =>
    rw [operandsOf_cons, List.append_eq_nil_iff, Option.toList_eq_nil_iff] at h
    obtain ⟨t', ht', hoperand, hnumber, hdepth⟩ := exists_bind? h.1
    obtain ⟨ts', hts', hoperands, hnumbers, hdepths⟩ := ih h.2
    refine ⟨t' :: ts', by simp [List.mapM_cons, ht', hts'], by simp [hoperand, hoperands], ?_, ?_⟩
    · intro n
      rw [hnumber, hnumbers]
    · intro depth
      simp [hdepth, hdepths]

/-- A token that does not close more than is open can be nested. -/
theorem exists_nestStep {t : Token Param} {depth depth' : Nat}
    (h : depthStep depth t = some depth') {levels : List (List Item)}
    (hlength : levels.length = depth + 1) :
    ∃ levels', nestStep levels t = some levels' ∧ levels'.length = depth' + 1 := by
  obtain ⟨inner, outer, rfl⟩ := List.exists_cons_of_length_eq_add_one hlength
  cases t with
  | opening => cases h; exact ⟨_, rfl, by simpa using hlength⟩
  -- There is a level to go back to because the depth is not zero.
  | closing =>
    cases outer with
    | nil =>
      obtain rfl : depth = 0 := by simpa using hlength.symm
      cases h
    | cons items rest =>
      obtain rfl : depth = rest.length + 1 := by simpa using hlength.symm
      cases h
      exact ⟨_, rfl, rfl⟩
  | _ => cases h; exact ⟨_, rfl, by simpa using hlength⟩

theorem exists_foldlM_nestStep {ts : List (Token Param)} {depth depth' : Nat}
    (h : ts.foldlM depthStep depth = some depth') {levels : List (List Item)}
    (hlength : levels.length = depth + 1) :
    ∃ levels', ts.foldlM nestStep levels = some levels' ∧ levels'.length = depth' + 1 := by
  induction ts generalizing depth levels with
  | nil => cases h; exact ⟨levels, rfl, hlength⟩
  | cons t ts ih =>
    rw [List.foldlM_cons] at h
    obtain ⟨between, hstep, hrest⟩ := Option.bind_eq_some_iff.mp h
    obtain ⟨next, hnext, hlength'⟩ := exists_nestStep hstep hlength
    obtain ⟨levels', hlevels', hfinal⟩ := ih hrest hlength'
    exact ⟨levels', by simp [hnext, hlevels'], hfinal⟩

/-- Tokens whose parentheses match are nested into items. -/
theorem exists_nest? {ts : List (Token Param)} (h : ts.foldlM depthStep 0 = some 0) :
    ∃ items, nest? ts = some items := by
  have hone : ([[]] : List (List Item)).length = 0 + 1 := rfl
  obtain ⟨levels, hlevels, hlength⟩ := exists_foldlM_nestStep h hone
  obtain ⟨items, rfl⟩ := List.length_eq_one_iff.mp hlength
  exact ⟨items, by rw [nest?, hlevels]⟩

/-! ## Plain names are read -/

/-- The tokens of a type name are the same at any place in a statement. -/
theorem tokens?_typeName {type : String} (h : IsPlain type) (n : Nat) :
    tokens? type.toList = some (number n (typeTokens type))
      ∧ operandsOf (typeTokens type) = [] := by
  obtain ⟨ts, hts, hnone, -⟩ := exists_tokens h
  obtain ⟨ts', hts', hnone', hnumber, -⟩ := exists_resolve hnone
  have htype : typeTokens type = ts' := by simp [typeTokens, hts, hts']
  rw [htype, hnumber]
  exact ⟨hts, hnone'⟩

theorem tokensOf_typeItems {type : String} (h : IsPlain type) :
    tokensOf (typeItems type) = typeTokens type ∧ ∀ i ∈ typeItems type, i.Built := by
  obtain ⟨ts, hts, hnone, hdepth⟩ := exists_tokens h
  obtain ⟨ts', hts', -, -, hsame⟩ := exists_resolve hnone
  obtain ⟨items, hitems⟩ := exists_nest? ((hsame 0).trans hdepth)
  have htype : typeTokens type = ts' := by simp [typeTokens, hts, hts']
  have hall : typeItems type = items := by simp [typeItems, htype, hitems]
  rw [htype, hall]
  exact nest?_eq_some_iff.mp hitems

end Sift.Sql

import Mathlib.Data.List.Basic
import Sift.Sql.Names
import Sift.Sql.Statement

/-!
# Tokens of SQL

A reader that takes the text of a statement apart as the database does, without knowing how it was
made. A name in double quotes is one token, whatever it holds; a quote inside it is doubled. A word
is not quoted, and its case does not count. A placeholder stands for a parameter by its number.

The reader is a machine that goes through the characters once. `scan` records the tokens that are
complete and what the machine is in the middle of, so that two texts can be read one after the
other (`scan_append`). A blank, a parenthesis, a comma or a dot ends what is pending, so a text that
begins with one of these is read on its own (`tokens?_append_of_isBreak`).

The reader has no comments, no literals and no quotes but the two kinds above. A single quote
outside of names is no token at all.

Main statements: `scan_quoteName`, `tokens?_placeholder` and `resolve_number`.
-/

namespace Sift.Sql

/-- A token. An operand is a placeholder, or the parameter that it stands for. -/
inductive Token (α : Type) where
  | word (s : String)
  | name (s : String)
  | symbol (s : String)
  | operand (a : α)
  | opening
  | closing
  deriving DecidableEq

/-! ## Characters -/

def isSpace (c : Char) : Bool := " \t\n\r\x0b\x0c".toList.contains c

/-- Words consist of letters, digits and underscores, and of everything beyond ASCII. -/
def isWordChar (c : Char) : Bool := c.isAlphanum || c == '_' || 128 ≤ c.toNat

def isOperatorChar (c : Char) : Bool := "+-*/<>=~!@#%^&|?:".toList.contains c

def isBreak (c : Char) : Bool := !isWordChar c && !isOperatorChar c && c != '$' && c != '"'

/-! ## The machine -/

/-- What the reader is in the middle of. -/
inductive Mode where
  | idle
  | word (w : List Char)
  | symbol (w : List Char)
  /-- After the `$` of a placeholder. -/
  | dollar
  | number (n : Nat)
  | name (w : List Char)
  /-- After a quote in a name, which ends there unless another quote follows. -/
  | quote (w : List Char)
  deriving DecidableEq

namespace Mode

/-- The token that is complete if nothing more of it follows. -/
def finish : Mode → Option (List (Token Nat))
  | .idle => some []
  | .word w => some [.word (String.ofList (w.map Char.toLower))]
  | .symbol w => some [.symbol (String.ofList w)]
  | .dollar => none
  | .number n => some [.operand n]
  | .name _ => none
  | .quote w => some [.name (String.ofList w)]

def start (c : Char) : Option (List (Token Nat) × Mode) :=
  if isSpace c then some ([], .idle)
  else if c = '(' then some ([.opening], .idle)
  else if c = ')' then some ([.closing], .idle)
  else if c = '"' then some ([], .name [])
  else if c = '$' then some ([], .dollar)
  else if c = '\'' then none
  else if isWordChar c then some ([], .word [c])
  else if isOperatorChar c then some ([], .symbol [c])
  else some ([.symbol (String.ofList [c])], .idle)

/-- What a character begins after a token that it does not belong to. -/
def startAfter (t : Token Nat) (c : Char) : Option (List (Token Nat) × Mode) :=
  (start c).map fun r => (t :: r.1, r.2)

def step (m : Mode) (c : Char) : Option (List (Token Nat) × Mode) :=
  match m with
  | .idle => start c
  | .word w =>
    if isWordChar c || c == '$' then some ([], .word (w ++ [c]))
    else startAfter (.word (String.ofList (w.map Char.toLower))) c
  | .symbol w =>
    if isOperatorChar c then some ([], .symbol (w ++ [c]))
    else startAfter (.symbol (String.ofList w)) c
  | .dollar => if c.isDigit then some ([], .number (c.toNat - '0'.toNat)) else none
  | .number n =>
    if c.isDigit then some ([], .number (10 * n + (c.toNat - '0'.toNat)))
    else if isWordChar c then none
    else startAfter (.operand n) c
  | .name w => some ([], if c = '"' then .quote w else .name (w ++ [c]))
  | .quote w =>
    if c = '"' then some ([], .name (w ++ [c])) else startAfter (.name (String.ofList w)) c

end Mode

/-- Goes through a text: the tokens that are complete, and what is pending at its end. -/
def scan (m : Mode) : List Char → Option (List (Token Nat) × Mode)
  | [] => some ([], m)
  | c :: cs => (m.step c).bind fun r => (scan r.2 cs).map fun s => (r.1 ++ s.1, s.2)

def tokens? (cs : List Char) : Option (List (Token Nat)) :=
  (scan .idle cs).bind fun r => r.2.finish.map fun last => r.1 ++ last

/-! ## Texts one after the other -/

/-- A text is scanned in two parts, the mode handed on from one to the other. -/
theorem scan_append {m m' m'' : Mode} {a b : List Char} {s t : List (Token Nat)}
    (ha : scan m a = some (s, m')) (hb : scan m' b = some (t, m'')) :
    scan m (a ++ b) = some (s ++ t, m'') := by
  induction a generalizing m s with
  | nil => cases ha; exact hb
  | cons c a ih =>
    simp only [scan, Option.bind_eq_some_iff, Option.map_eq_some_iff] at ha
    obtain ⟨r, hr, u, hu, heq⟩ := ha
    cases heq
    simp [scan, hr, ih hu]

/-- The tokens of a text are what its scan leaves, with the one that is open at the end. -/
theorem tokens?_eq_some_iff {cs : List Char} {ts : List (Token Nat)} :
    tokens? cs = some ts
      ↔ ∃ s m last, scan .idle cs = some (s, m) ∧ m.finish = some last ∧ ts = s ++ last := by
  unfold tokens?
  simp only [Option.bind_eq_some_iff, Option.map_eq_some_iff, Prod.exists]
  constructor
  · rintro ⟨s, m, hs, last, hlast, rfl⟩
    exact ⟨s, m, last, hs, hlast, rfl⟩
  · rintro ⟨s, m, last, hs, hlast, rfl⟩
    exact ⟨s, m, hs, last, hlast, rfl⟩

/-- After a text that leaves nothing pending, reading starts afresh. -/
theorem tokens?_append_of_idle {a b : List Char} {s t : List (Token Nat)}
    (ha : scan .idle a = some (s, .idle)) (hb : tokens? b = some t) :
    tokens? (a ++ b) = some (s ++ t) := by
  obtain ⟨u, m, last, hu, hlast, rfl⟩ := tokens?_eq_some_iff.mp hb
  exact tokens?_eq_some_iff.mpr ⟨_, m, last, scan_append ha hu, hlast, by rw [List.append_assoc]⟩

theorem scan_step {m m' : Mode} {c : Char} {s : List (Token Nat)} (h : m.step c = some (s, m')) :
    scan m [c] = some (s, m') := by
  simp [scan, h]

theorem isDigit_of_not_isWordChar {c : Char} (h : isWordChar c = false) : c.isDigit = false := by
  simp only [isWordChar, Char.isAlphanum, Bool.or_eq_false_iff] at h
  exact h.1.1.2

/-- A break ends the open token, and then a new one begins as if there had been none. -/
theorem step_of_isBreak {m : Mode} {last : List (Token Nat)} {c : Char}
    (hm : m.finish = some last) (hc : isBreak c = true) :
    m.step c = (Mode.start c).map fun r => (last ++ r.1, r.2) := by
  simp only [isBreak, Bool.and_eq_true, Bool.not_eq_true', bne_iff_ne, ne_eq] at hc
  obtain ⟨⟨⟨hword, hoperator⟩, hdollar⟩, hquote⟩ := hc
  cases m with
  | idle => cases hm; simp [Mode.step]
  | word w => cases hm; simp [Mode.step, Mode.startAfter, hword, hdollar]
  | symbol w => cases hm; simp [Mode.step, Mode.startAfter, hoperator]
  | dollar => cases hm
  | number n =>
    cases hm
    simp [Mode.step, Mode.startAfter, hword, isDigit_of_not_isWordChar hword]
  | name w => cases hm
  | quote w => cases hm; simp [Mode.step, Mode.startAfter, hquote]

/-- A text that begins with a character that ends what is pending is read on its own. -/
theorem tokens?_append_of_isBreak {a b : List Char} {c : Char} {s t : List (Token Nat)}
    (ha : tokens? a = some s) (hc : isBreak c = true) (hb : tokens? (c :: b) = some t) :
    tokens? (a ++ c :: b) = some (s ++ t) := by
  obtain ⟨u, m, last, hu, hlast, rfl⟩ := tokens?_eq_some_iff.mp ha
  obtain ⟨v, m', last', hv, hlast', rfl⟩ := tokens?_eq_some_iff.mp hb
  have hpending : scan m (c :: b) = some (last ++ v, m') := by
    rw [scan, step_of_isBreak hlast hc]
    -- With nothing pending, the same character begins the same.
    simp only [scan, Mode.step, Option.bind_eq_some_iff, Option.map_eq_some_iff] at hv
    obtain ⟨r, hr, w, hw, heq⟩ := hv
    cases heq
    simp [hr, hw]
  refine tokens?_eq_some_iff.mpr ⟨_, m', last', scan_append hu hpending, hlast', ?_⟩
  simp only [List.append_assoc]

/-! ## Names -/

/-- The reader undoes the doubling of quotes. -/
theorem scan_name (w s : List Char) :
    scan (.name w) (s.flatMap (fun c => if c = '"' then ['"', '"'] else [c]) ++ ['"'])
      = some ([], .quote (w ++ s)) := by
  induction s generalizing w with
  | nil => simp [scan, Mode.step]
  | cons c s ih =>
    by_cases hc : c = '"'
    · subst hc
      simpa [scan, Mode.step] using ih (w ++ ['"'])
    · simpa [scan, Mode.step, hc] using ih (w ++ [c])

/-- A quoted name is scanned up to its last quote, which might still be the first of two. -/
theorem scan_quoteName (s : String) :
    scan .idle (quoteName s).toList = some ([], .quote s.toList) := by
  have hquote : scan .idle ['"'] = some ([], .name []) := rfl
  have h := scan_append hquote (scan_name [] s.toList)
  simpa [quoteName] using h

theorem scan_column (field : String) :
    scan .idle (column field).toList = some ([.word "t", .symbol "."], .quote field.toList) := by
  have hstart : scan .idle ['t', '.'] = some ([.word "t", .symbol "."], .idle) := rfl
  have h := scan_append hstart (scan_quoteName field)
  simpa [column] using h

/-- A column and a text that follows it, whatever the name of the column. -/
theorem scan_column_append {field : String} {b : List Char} {s : List (Token Nat)} {m : Mode}
    (h : ∀ w, scan (.quote w) b = some (.name (String.ofList w) :: s, m)) :
    scan .idle ((column field).toList ++ b)
      = some (.word "t" :: .symbol "." :: .name field :: s, m) := by
  have hb := scan_append (scan_column field) (h field.toList)
  rwa [String.ofList_toList] at hb

/-! ## Placeholders -/

theorem scan_digits {ds : List Char} (h : ∀ c ∈ ds, c.isDigit = true) (k : Nat) :
    scan (.number k) ds = some ([], .number (Nat.ofDigitChars 10 ds k)) := by
  induction ds generalizing k with
  | nil => rfl
  | cons c ds ih =>
    obtain ⟨hc, hds⟩ := List.forall_mem_cons.mp h
    simp [scan, Mode.step, hc, ih hds, Nat.ofDigitChars_cons]

theorem scan_placeholder (n : Nat) :
    scan .idle ("$" ++ toString n).toList = some ([], .number n) := by
  have hdigits : ∀ c ∈ Nat.toDigits 10 n, c.isDigit = true := fun c hc =>
    Nat.isDigit_of_mem_toDigits (by decide) (by decide) hc
  have hvalue : Nat.ofDigitChars 10 (Nat.toDigits 10 n) 0 = n :=
    Nat.ofDigitChars_toDigits (by decide) (by decide)
  have htext : ("$" ++ toString n).toList = '$' :: Nat.toDigits 10 n := by
    simp [Nat.repr_eq_ofList_toDigits]
  rw [htext]
  cases hds : Nat.toDigits 10 n with
  | nil => exact absurd hds Nat.toDigits_ne_nil
  | cons c ds =>
    rw [hds] at hdigits hvalue
    obtain ⟨hc, hds⟩ := List.forall_mem_cons.mp hdigits
    have hdollar : scan .idle ['$'] = some ([], .dollar) := rfl
    have hfirst : scan .dollar [c] = some ([], .number (c.toNat - '0'.toNat)) :=
      scan_step (by simp [Mode.step, hc])
    have h := scan_append hdollar (scan_append hfirst (scan_digits hds _))
    rw [Nat.ofDigitChars_cons, Nat.mul_zero, Nat.zero_add] at hvalue
    rw [hvalue] at h
    exact h

/-- A placeholder is one token, which holds its number. -/
theorem tokens?_placeholder (n : Nat) : tokens? ("$" ++ toString n).toList = some [.operand n] :=
  tokens?_eq_some_iff.mpr ⟨_, _, _, scan_placeholder n, rfl, rfl⟩

/-! ## Placeholders and parameters -/

section Operands

variable {α β : Type}

namespace Token

def operand? : Token α → Option α
  | .operand a => some a
  | _ => none

def bind? (f : α → Option β) : Token α → Option (Token β)
  | .word s => some (.word s)
  | .name s => some (.name s)
  | .symbol s => some (.symbol s)
  | .operand a => (f a).map .operand
  | .opening => some .opening
  | .closing => some .closing

end Token

def operandsOf (ts : List (Token α)) : List α := ts.filterMap Token.operand?

/-- Tokens with numbers from `n` on for their operands. -/
def number (n : Nat) : List (Token α) → List (Token Nat)
  | [] => []
  | .operand _ :: ts => .operand n :: number (n + 1) ts
  | .word s :: ts => .word s :: number n ts
  | .name s :: ts => .name s :: number n ts
  | .symbol s :: ts => .symbol s :: number n ts
  | .opening :: ts => .opening :: number n ts
  | .closing :: ts => .closing :: number n ts

/-- The parameter that a placeholder stands for. The first is number 1. -/
def lookup (params : List Param) : Nat → Option Param
  | 0 => none
  | k + 1 => params[k]?

/-- Tokens with the parameters in the place of their placeholders. -/
def resolve (params : List Param) (ts : List (Token Nat)) : Option (List (Token Param)) :=
  ts.mapM (Token.bind? (lookup params))

@[simp] theorem operandsOf_cons (t : Token α) (ts : List (Token α)) :
    operandsOf (t :: ts) = t.operand?.toList ++ operandsOf ts := by
  cases t <;> rfl

@[simp] theorem operandsOf_append (s t : List (Token α)) :
    operandsOf (s ++ t) = operandsOf s ++ operandsOf t :=
  List.filterMap_append

/-- Placeholders in a second run of tokens are numbered on from the first. -/
theorem number_append (n : Nat) (s t : List (Token α)) :
    number n (s ++ t) = number n s ++ number (n + (operandsOf s).length) t := by
  induction s generalizing n with
  | nil => rfl
  | cons x s ih =>
    cases x with
    | operand a => simp [number, ih, Token.operand?, Nat.add_assoc, Nat.add_comm 1]
    | _ => simp [number, ih, Token.operand?]

/-- The placeholders of numbered tokens are consecutive. -/
theorem operandsOf_number (n : Nat) (ts : List (Token α)) :
    operandsOf (number n ts) = List.range' n (operandsOf ts).length := by
  induction ts generalizing n with
  | nil => rfl
  | cons t ts ih =>
    cases t with
    | operand a => simp [number, ih, Token.operand?, List.range'_succ]
    | _ => simp [number, ih, Token.operand?]

/-- Numbered tokens are resolved to what they were before, if the parameters are their operands. -/
theorem resolve_number (before : List Param) (ts : List (Token Param)) (after : List Param) :
    resolve (before ++ (operandsOf ts ++ after)) (number (before.length + 1) ts) = some ts := by
  induction ts generalizing before with
  | nil => rfl
  | cons t ts ih =>
    unfold resolve at ih ⊢
    cases t with
    | operand p =>
      -- The parameter of this token counts among those before the next.
      have h := ih (before ++ [p])
      have hp : lookup (before ++ p :: (operandsOf ts ++ after)) (before.length + 1) = some p := by
        simp [lookup]
      simp only [List.length_append, List.length_singleton, List.append_assoc,
        List.singleton_append] at h
      simp [number, Token.operand?, Token.bind?, List.mapM_cons, hp, h]
    | _ => simp [number, Token.operand?, Token.bind?, List.mapM_cons, ih before]

end Operands

end Sift.Sql

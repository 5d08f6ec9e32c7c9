import Sift.Yaml.Property
import Sift.Yaml.Scalar.Block
import Sift.Yaml.Scalar.Plain

/-!
# YAML tokens

The lexical half of reading YAML, which makes indentation explicit: a block collection has a token
where it starts and one where it ends, as a flow collection has brackets. A key shows only by the
colon after it, so every place where one may have begun is remembered, and the tokens that announce
a key are put there once its colon is found. A key must stay on one line, within 1024 bytes.

Main statement: `take_length`, every token takes a character.
-/

namespace Sift.Yaml

/-- A word or mark of a YAML text, or a boundary that its indentation shows. -/
inductive Token where
  | directive (d : Directive)
  | documentStart
  | documentEnd
  | blockSequence
  | blockMapping
  /-- The end of a block collection. -/
  | blockEnd
  | flowSequence
  | flowSequenceEnd
  | flowMapping
  | flowMappingEnd
  /-- The mark before an item of a block sequence. -/
  | dash
  /-- The mark between the items of a flow collection. -/
  | comma
  | key
  | value
  | reference (name : String)
  | anchor (name : String)
  | tag (tag : Tag)
  | scalar (text : String) (style : Style)
  /-- The end of the text. -/
  | finish
  deriving DecidableEq, Repr

structure KeyPlace where
  /-- How many tokens come before it. -/
  before : Nat
  /-- Whether nothing but a key can stand there. -/
  required : Bool
  mark : Mark

/-- How far the start of a key may be from its colon, in bytes. -/
def maxKeyLength : Nat := 1024

/-- Whether a key that began at `k` can no longer have its colon at `m`. -/
def KeyPlace.isStale (k : KeyPlace) (m : Mark) : Bool :=
  k.mark.line < m.line || k.mark.index + maxKeyLength < m.index

structure Layout where
  /-- The tokens so far, last first. -/
  tokens : List Token
  count : Nat
  /-- The columns of the open block collections, innermost first. -/
  columns : List Nat
  /-- Whether a key may begin at the next token. -/
  keyAllowed : Bool
  /-- Where the key of the innermost collection may have begun. -/
  key : Option KeyPlace
  /-- The same for what is outside of each open flow collection, innermost first. -/
  outer : List (Option KeyPlace)

namespace Layout

def start : Layout := ⟨[], 0, [], true, none, []⟩

def inFlow (s : Layout) : Bool := !s.outer.isEmpty

def put (s : Layout) (t : Token) : Layout :=
  { s with tokens := t :: s.tokens, count := s.count + 1 }

def insert (s : Layout) (before : Nat) (ts : List Token) : Layout :=
  -- The tokens are kept last first, so those that come later are at the front.
  let later := s.count - before
  { s with
    tokens := s.tokens.take later ++ ts.reverse ++ s.tokens.drop later
    count := s.count + ts.length }

/-- Gives up the place of a key, unless nothing but a key can stand there. -/
def dropKey (s : Layout) : Option Layout :=
  match s.key with
  | some k => if k.required then none else some { s with key := none }
  | none => some s

/-- Remembers a token at `m` as one with which a key may begin. -/
def saveKey (s : Layout) (m : Mark) : Option Layout :=
  if s.keyAllowed then
    s.dropKey.map fun s =>
      { s with key := some ⟨s.count, !s.inFlow && s.columns.head? == some m.column, m⟩ }
  else
    some s

/-- Gives up the place of a key that can no longer be one at `m`. The places outside of a flow
collection are looked at when it has been closed, for what is stale stays so. -/
def expire (s : Layout) (m : Mark) : Option Layout :=
  match s.key with
  | some k => if k.isStale m then s.dropKey else some s
  | none => some s

/-- Ends the block collections for which `deeper` holds of the column. -/
def unrollWhile (s : Layout) (deeper : Nat → Bool) : Layout :=
  if s.inFlow then s
  else
    let ended := s.columns.takeWhile deeper
    { s with
      tokens := ended.map (fun _ => .blockEnd) ++ s.tokens
      count := s.count + ended.length
      columns := s.columns.dropWhile deeper }

/-- Whether a block collection at `column` would be deeper than all that are open. -/
def isDeeper (s : Layout) (column : Nat) : Bool :=
  !s.inFlow && s.columns.head?.all fun c => c < column

/-- Starts a block collection at `column`, unless one is open there. -/
def roll (s : Layout) (column : Nat) (t : Token) : Layout :=
  if s.isDeeper column then { s.put t with columns := column :: s.columns } else s

/-- Announces a key at a place that was remembered, and a block mapping if it is the first. -/
def announceKey (s : Layout) (k : KeyPlace) : Layout :=
  if s.isDeeper k.mark.column then
    { s.insert k.before [.blockMapping, .key] with columns := k.mark.column :: s.columns }
  else
    s.insert k.before [.key]

/-- Starts a block collection at a token that needs a place where keys are allowed. -/
def beginAt (s : Layout) (m : Mark) (t : Token) : Option Layout :=
  if s.inFlow then some s
  else if s.keyAllowed then some (s.roll m.column t)
  else none

end Layout

/-! ### What a token starts with -/

inductive Start where
  | directive
  | boundary (t : Token)
  | opening (t : Token)
  | closing (t : Token)
  | comma
  | dash
  | key
  | value
  | reference
  | anchor
  | tag
  | block (style : Style)
  | single
  | double
  | plain
  deriving DecidableEq, Repr

def indicators : List Char :=
  ['-', '?', ':', ',', '[', ']', '\x7b', '\x7d', '#', '&', '*', '!', '|', '>', '\'', '"', '%', '@',
    '\x60']

/-- What starts with one of the characters that have a meaning of their own. -/
def indicated? (inFlow : Bool) (m : Mark) (rest : List Mark) : Option Start :=
  match m.char with
  | '[' => some (.opening .flowSequence)
  | '\x7b' => some (.opening .flowMapping)
  | ']' => some (.closing .flowSequenceEnd)
  | '\x7d' => some (.closing .flowMappingEnd)
  | ',' => some .comma
  -- These three have their meaning before a gap, the last two anywhere in a flow collection.
  | '-' => some (if atGap rest then .dash else .plain)
  | '?' => some (if inFlow || atGap rest then .key else .plain)
  | ':' => some (if inFlow || atGap rest then .value else .plain)
  | '*' => some .reference
  | '&' => some .anchor
  | '!' => some .tag
  | '|' => if inFlow then none else some (.block .literal)
  | '>' => if inFlow then none else some (.block .folded)
  | '\'' => some .single
  | '"' => some .double
  | _ => none

def start? (inFlow : Bool) (m : Mark) (rest : List Mark) : Option Start :=
  if m.column == 0 && m.char == '%' then some .directive
  else if atBoundary (m :: rest) then
    some (.boundary (if m.char == '-' then .documentStart else .documentEnd))
  else if indicators.contains m.char then indicated? inFlow m rest
  else if m.isGap then none
  else some .plain

namespace Layout

def take (s : Layout) (m : Mark) (rest : List Mark) : Start → Option (Layout × List Mark)
  | .directive =>
    match (s.unrollWhile fun _ => true).dropKey, directive? rest with
    | some s, some (d, more) => some ({ s with keyAllowed := false }.put (.directive d), more)
    | _, _ => none
  | .boundary t =>
    match (s.unrollWhile fun _ => true).dropKey with
    | some s => some ({ s with keyAllowed := false }.put t, rest.drop 2)
    | none => none
  | .opening t =>
    match s.saveKey m with
    | some s =>
      some ({ s with keyAllowed := true, key := none, outer := s.key :: s.outer }.put t, rest)
    | none => none
  -- Outside of the collection, the place of a key is the one that was remembered when it began.
  | .closing t =>
    match s.dropKey with
    | some s =>
      some ({ s with
        keyAllowed := false, key := s.outer.head?.getD s.key, outer := s.outer.tail }.put t, rest)
    | none => none
  | .comma =>
    match s.dropKey with
    | some s => some ({ s with keyAllowed := true }.put .comma, rest)
    | none => none
  | .dash =>
    match (s.beginAt m .blockSequence).bind dropKey with
    | some s => some ({ s with keyAllowed := true }.put .dash, rest)
    | none => none
  | .key =>
    match (s.beginAt m .blockMapping).bind dropKey with
    | some s => some ({ s with keyAllowed := !s.inFlow }.put .key, rest)
    | none => none
  | .value =>
    match s.key with
    -- The key was taken for something else until its colon was found.
    | some k =>
      some ({ s.announceKey k with key := none, keyAllowed := false }.put .value, rest)
    | none =>
      match s.beginAt m .blockMapping with
      | some s => some ({ s with keyAllowed := !s.inFlow }.put .value, rest)
      | none => none
  | .reference =>
    match s.saveKey m, name? rest with
    | some s, some (name, more) => some ({ s with keyAllowed := false }.put (.reference name), more)
    | _, _ => none
  | .anchor =>
    match s.saveKey m, name? rest with
    | some s, some (name, more) => some ({ s with keyAllowed := false }.put (.anchor name), more)
    | _, _ => none
  | .tag =>
    match s.saveKey m, tag? s.inFlow rest with
    | some s, some (tag, more) => some ({ s with keyAllowed := false }.put (.tag tag), more)
    | _, _ => none
  | .block style =>
    match s.dropKey, block? style s.columns.head? rest with
    | some s, some (cs, more) =>
      some ({ s with keyAllowed := true }.put (.scalar (String.ofList cs) style), more)
    | _, _ => none
  | .single =>
    match s.saveKey m, single? [] rest with
    | some s, some (cs, more) =>
      some ({ s with keyAllowed := false }.put (.scalar (String.ofList cs) .quoted), more)
    | _, _ => none
  | .double =>
    match s.saveKey m, double? [] rest with
    | some s, some (cs, more) =>
      some ({ s with keyAllowed := false }.put (.scalar (String.ofList cs) .quoted), more)
    | _, _ => none
  | .plain =>
    let indent := match s.columns.head? with
      | some column => column + 1
      | none => 0
    match s.saveKey m, plain? s.inFlow indent m.char rest with
    | some s, some ((cs, broken), more) =>
      some ({ s with keyAllowed := broken }.put (.scalar (String.ofList cs) .plain), more)
    | _, _ => none

/-- No token gives back marks, so the tokens of a text are read by recursion on it. -/
theorem take_length {s t : Layout} {m : Mark} {rest more : List Mark} {start : Start}
    (h : s.take m rest start = some (t, more)) : more.length ≤ rest.length := by
  -- Each kind of token has been shown to consume what it reads.
  cases start with
  | directive =>
    simp only [take] at h
    split at h <;> simp at h
    next hd => rw [← h.2]; exact directive?_length hd
  | reference | anchor =>
    simp only [take] at h
    split at h <;> simp at h
    next hn => rw [← h.2]; exact name?_length hn
  | tag =>
    simp only [take] at h
    split at h <;> simp at h
    next ht => rw [← h.2]; exact tag?_length ht
  | block style =>
    simp only [take] at h
    split at h <;> simp at h
    next hb => rw [← h.2]; exact block?_length hb
  | single =>
    simp only [take] at h
    split at h <;> simp at h
    next hs => rw [← h.2]; exact Nat.le_of_lt (single?_length hs)
  | double =>
    simp only [take] at h
    split at h <;> simp at h
    next hd => rw [← h.2]; exact Nat.le_of_lt (double?_length hd)
  | plain =>
    simp only [take] at h
    split at h <;> simp at h
    next hp => rw [← h.2]; exact plain?_length hp
  | value =>
    simp only [take] at h
    split at h
    · simp at h; simp [← h.2]
    · split at h <;> simp at h
      simp [← h.2]
  | _ =>
    simp only [take] at h
    split at h <;> simp at h
    simp [← h.2]

def finish? (s : Layout) : Option (List Token) :=
  ((s.unrollWhile fun _ => true).dropKey).map fun s => (Token.finish :: s.tokens).reverse

end Layout

/-! ### The tokens of a text -/

/-- Skips blanks, comments, line breaks, and byte order marks at the start of a line. Outside of
flow collections a key may begin on a new line, and a tab must not stand where one may. -/
def skipGap (inFlow allowed comment : Bool) : List Mark → Bool × List Mark
  | [] => (allowed, [])
  | m :: rest =>
    if m.isBreak then skipGap inFlow (allowed || !inFlow) false rest
    else if comment || m.char == ' ' || (m.char == '\t' && (inFlow || !allowed))
        || (m.column == 0 && m.char == '\ufeff') then
      skipGap inFlow allowed comment rest
    else if m.char == '#' then skipGap inFlow allowed true rest
    else (allowed, m :: rest)

/-- Gaps and comments are skipped from the front. -/
theorem skipGap_length (inFlow allowed comment : Bool) (marks : List Mark) :
    (skipGap inFlow allowed comment marks).2.length ≤ marks.length := by
  fun_induction skipGap inFlow allowed comment marks <;> simp_all <;> omega

/-- Takes the token that starts at `m`, after ending what ends there. -/
def next? (s : Layout) (m : Mark) (rest : List Mark) : Option (Layout × List Mark) :=
  match s.expire m with
  | none => none
  | some s =>
    let s := s.unrollWhile (m.column < ·)
    match start? s.inFlow m rest with
    | none => none
    | some start => s.take m rest start

def tokensFrom? (s : Layout) (marks : List Mark) : Option (List Token) :=
  match _hg : skipGap s.inFlow s.keyAllowed false marks with
  | (_, []) => s.finish?
  | (keyAllowed, m :: rest) =>
    match _hn : next? { s with keyAllowed } m rest with
    | none => none
    | some (after, more) => tokensFrom? after more
termination_by marks.length
decreasing_by
  have h₁ := skipGap_length s.inFlow s.keyAllowed false marks
  rw [_hg] at h₁
  have h₂ : more.length ≤ rest.length := by
    simp only [next?] at _hn
    split at _hn
    · simp at _hn
    · split at _hn
      · simp at _hn
      · exact Layout.take_length _hn
  simp only [List.length_cons] at h₁
  omega

def tokens? (s : String) : Option (List Token) := (marks? s).bind (tokensFrom? .start)

end Sift.Yaml

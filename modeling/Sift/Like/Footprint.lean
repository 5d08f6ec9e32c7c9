import Sift.Like

/-!
# The size of a pattern

A pattern is built into two automata over the bytes of UTF-8, one that reads a text forward and one
that reads it backward, and neither may take up more than `sizeLimit` bytes of memory. What a symbol
adds to an automaton depends on the ways to write the characters that it stands for, each of them a
range for every byte in turn:

* forward, ways that begin alike share their states, and so do ways that end alike, so that a state
  is what is left to read;
* backward, a choice leads into every way, and ways that begin alike share their states, so that a
  state is what has been read at the end of a way.

Main statement: `isTooLarge_iff`.
-/

namespace Sift.Like

/-! ### Ways to write characters -/

structure ByteRange where
  first : Nat
  last : Nat
  deriving DecidableEq

/-- Characters that are written alike: a range for every byte in turn. -/
abbrev Encoding := List ByteRange

def ByteRange.continuation : ByteRange := ⟨0x80, 0xBF⟩

def anyEncoding : List Encoding :=
  [[⟨0x00, 0x7F⟩],
   [⟨0xC2, 0xDF⟩, .continuation],
   [⟨0xE0, 0xE0⟩, ⟨0xA0, 0xBF⟩, .continuation],
   [⟨0xE1, 0xEC⟩, .continuation, .continuation],
   [⟨0xED, 0xED⟩, ⟨0x80, 0x9F⟩, .continuation],
   [⟨0xEE, 0xEF⟩, .continuation, .continuation],
   [⟨0xF0, 0xF0⟩, ⟨0x90, 0xBF⟩, .continuation, .continuation],
   [⟨0xF1, 0xF3⟩, .continuation, .continuation, .continuation],
   [⟨0xF4, 0xF4⟩, ⟨0x80, 0x8F⟩, .continuation, .continuation]]

def encoding (c : Char) : Encoding :=
  (String.utf8EncodeChar c).map fun b => ⟨b.toNat, b.toNat⟩

/-- Two ways in one, where they differ in the last byte alone and the second goes on where the first
stops. -/
def Encoding.join? : Encoding → Encoding → Option Encoding
  | [a], [b] => if a.last + 1 = b.first then some [⟨a.first, b.last⟩] else none
  | a :: p, b :: q => if a = b then (join? p q).map (a :: ·) else none
  | _, _ => none

/-- The ways to write some characters, which are in ascending order. -/
def encodings (cs : List Char) : List Encoding :=
  cs.foldr (fun c es =>
    match es with
    | [] => [encoding c]
    | e :: rest =>
      match (encoding c).join? e with
      | some joined => joined :: rest
      | none => encoding c :: e :: rest) []

def Encoding.beginnings : Encoding → List Encoding
  | [] => [[]]
  | a :: e => [] :: (beginnings e).map (a :: ·)

def residual (es : List Encoding) (beginning : Encoding) : List Encoding :=
  es.filterMap beginning.isPrefixOf?

/-! ### Footprints -/

/-- The memory, in bytes, that something takes up in each of the automata. -/
structure Footprint where
  forward : Nat
  backward : Nat
  deriving DecidableEq

namespace Footprint

instance : Add Footprint := ⟨fun a b => ⟨a.forward + b.forward, a.backward + b.backward⟩⟩

@[simp]
theorem forward_add (a b : Footprint) : (a + b).forward = a.forward + b.forward := rfl

@[simp]
theorem backward_add (a b : Footprint) : (a + b).backward = a.backward + b.backward := rfl

def both (n : Nat) : Footprint := ⟨n, n⟩

def state : Nat := 32

/-- The size of one way out of a state that does not read. -/
def choice : Nat := 4

/-- The size of one way out of a state that reads one of several ranges. -/
def transition : Nat := 8

/-- What a symbol takes up that stands for all characters written in these ways. -/
def ofEncodings (es : List Encoding) : Footprint :=
  let beginnings := (es.flatMap Encoding.beginnings).eraseDups
  let residuals := (beginnings.map (residual es)).eraseDups
  let transitions := residuals.map fun r => (r.filterMap (·.head?)).eraseDups.length
  ⟨state * residuals.length + transition * transitions.foldl (· + ·) 0,
   state * (1 + beginnings.length) + choice * es.length⟩

def anyOne : Footprint := ofEncodings anyEncoding

/-- The sizes for any one character, which the automaton repeats at every wildcard. -/
theorem anyOne_eq : anyOne = ⟨416, 964⟩ := by decide +kernel

/-- What a wildcard for any run of characters takes up: that of one character, and a choice between
one more of them and going on. -/
def anyRun : Footprint := anyOne + both (state + 2 * choice)

/-- What a character takes up: a state for each of its bytes if case does not matter to it, one
state that reads its variants if those are single bytes, else an automaton for them. -/
def ofChar (c : Char) : Footprint :=
  match Text.caseVariants c with
  | [d] => both (state * d.utf8Size)
  | variants =>
    let es := encodings variants
    if variants.all (·.utf8Size == 1) then both (2 * state + transition * es.length)
    else ofEncodings es

def ofSymbol : Symbol → Footprint
  | .anyRun => anyRun
  | .anyOne => anyOne
  | .folded c => ofChar c

/-- What every pattern takes up: the states that say where a text begins and ends, and in the
automaton that reads forward those that note where a match does. -/
def frame : Footprint := ⟨6 * state, 4 * state⟩

def addSymbols (start : Footprint) (pattern : List Symbol) : Footprint :=
  pattern.foldl (fun total s => total + ofSymbol s) start

end Footprint

def footprint (pattern : String) : Footprint := Footprint.frame.addSymbols (symbols pattern)

/-! ### The limit -/

/-- The memory, in bytes, that an automaton may take up. -/
def sizeLimit : Nat := 10485760

def isTooLarge (pattern : String) : Bool :=
  let total := footprint pattern
  sizeLimit < max total.forward total.backward

/-- A pattern is refused when either of its two automata is too large. -/
theorem isTooLarge_iff (pattern : String) :
    isTooLarge pattern
      ↔ sizeLimit < (footprint pattern).forward ∨ sizeLimit < (footprint pattern).backward := by
  simp only [isTooLarge, decide_eq_true_eq]
  omega

end Sift.Like

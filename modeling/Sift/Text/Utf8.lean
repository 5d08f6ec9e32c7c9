/-!
# Decoding UTF-8

A character is a lead byte and up to three continuation bytes. The lead says how many there are
and in which range the first of them must lie, which rules out overlong forms, surrogates and values
beyond Unicode; the others lie between `0x80` and `0xBF`.

`decode` is strict and says where a text goes wrong; `decodeLossy` puts a replacement character in
the place of every run of bytes that starts no character.
-/

namespace Sift.Text

structure Utf8Fault where
  /-- The index of the first byte that belongs to no character. -/
  index : Nat
  /-- How many bytes are wrong, or nothing if the text ends within a character. -/
  length : Option Nat
  deriving DecidableEq

def Utf8Fault.message (f : Utf8Fault) : String :=
  match f.length with
  | some n =>
    "invalid utf-8 sequence of " ++ toString n ++ " bytes from index " ++ toString f.index
  | none => "incomplete utf-8 byte sequence from index " ++ toString f.index

structure Lead where
  /-- The number of continuation bytes. -/
  owed : Nat
  /-- The range of the first of them. -/
  low : Nat
  high : Nat
  /-- The bits of the character that the lead holds. -/
  bits : Nat

/-- What a byte announces if it is the first of a character. -/
def lead? (b : Nat) : Option Lead :=
  if b < 0x80 then some ⟨0, 0, 0, b⟩
  else if 0xC2 ≤ b && b ≤ 0xDF then some ⟨1, 0x80, 0xBF, b - 0xC0⟩
  else if b == 0xE0 then some ⟨2, 0xA0, 0xBF, 0⟩
  else if b == 0xED then some ⟨2, 0x80, 0x9F, 0xD⟩
  else if 0xE1 ≤ b && b ≤ 0xEF then some ⟨2, 0x80, 0xBF, b - 0xE0⟩
  else if b == 0xF0 then some ⟨3, 0x90, 0xBF, 0⟩
  else if 0xF1 ≤ b && b ≤ 0xF3 then some ⟨3, 0x80, 0xBF, b - 0xF0⟩
  else if b == 0xF4 then some ⟨3, 0x80, 0x8F, 4⟩
  else none

/-- A character together with the number of its bytes, or the length of the fault. -/
abbrev Decoded := Except (Option Nat) (Char × Nat)

/-- Takes the continuation bytes that are still owed, `seen` bytes having been taken. -/
def continuation (seen : Nat) : (owed : Nat) → (low high value : Nat) → List UInt8 → Decoded
  | 0, _, _, value, _ => .ok (Char.ofNat value, seen)
  | _ + 1, _, _, _, [] => .error none
  | owed + 1, low, high, value, b :: rest =>
    if low ≤ b.toNat && b.toNat ≤ high then
      continuation (seen + 1) owed 0x80 0xBF (value * 64 + (b.toNat - 0x80)) rest
    else
      .error (some seen)

def character (b : UInt8) (rest : List UInt8) : Decoded :=
  match lead? b.toNat with
  | none => .error (some 1)
  | some l => continuation 1 l.owed l.low l.high l.bits rest

/-- Decodes bytes that start at `index`; `done` holds the characters before them, last first. -/
def decodeFrom (index : Nat) (done : List Char) (bytes : List UInt8) :
    Except Utf8Fault (List Char) :=
  match bytes with
  | [] => .ok done.reverse
  | b :: rest =>
    match character b rest with
    | .ok (c, n) => decodeFrom (index + n) (c :: done) (rest.drop (n - 1))
    | .error length => .error ⟨index, length⟩
termination_by bytes.length
decreasing_by simp only [List.length_drop, List.length_cons]; omega

def decode (bytes : List UInt8) : Except Utf8Fault String :=
  (decodeFrom 0 [] bytes).map String.ofList

def decodeLossyFrom (done : List Char) (bytes : List UInt8) : List Char :=
  match bytes with
  | [] => done.reverse
  | b :: rest =>
    match character b rest with
    | .ok (c, n) => decodeLossyFrom (c :: done) (rest.drop (n - 1))
    | .error (some n) => decodeLossyFrom ('\ufffd' :: done) (rest.drop (n - 1))
    | .error none => ('\ufffd' :: done).reverse
termination_by bytes.length
decreasing_by all_goals simp only [List.length_drop, List.length_cons]; omega

/-- The text that bytes encode, with replacement characters where they encode none. -/
def decodeLossy (bytes : List UInt8) : String := String.ofList (decodeLossyFrom [] bytes)

end Sift.Text

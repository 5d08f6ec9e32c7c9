import Sift.Text.Utf8

/-!
# Percent encoding

In an address, `%` and two hexadecimal digits stand for a byte. A `%` without two such digits
behind it stands for itself. Form parameters are percent-encoded too, a `+` in them being a space;
they are separated by `&`, and a name is separated from its value by the first `=`.

Main statement: `percentDecode_percentEncode`.
-/

namespace Sift.Text

def hexDigit? (b : UInt8) : Option UInt8 :=
  if 0x30 ≤ b && b ≤ 0x39 then some (b - 0x30)
  else if 0x41 ≤ b && b ≤ 0x46 then some (b - 0x41 + 10)
  else if 0x61 ≤ b && b ≤ 0x66 then some (b - 0x61 + 10)
  else none

/-- The byte that an escape at the start of some bytes stands for. -/
def escape? : List UInt8 → Option UInt8
  | 0x25 :: h :: l :: _ =>
    match hexDigit? h, hexDigit? l with
    | some x, some y => some (x * 16 + y)
    | _, _ => none
  | _ => none

def percentDecode (bytes : List UInt8) : List UInt8 :=
  match bytes with
  | [] => []
  | b :: rest =>
    match escape? (b :: rest) with
    | some x => x :: percentDecode (rest.drop 2)
    | none => b :: percentDecode rest
termination_by bytes.length
decreasing_by all_goals simp only [List.length_drop, List.length_cons]; omega

def bytesOf (s : String) : List UInt8 := s.toList.flatMap String.utf8EncodeChar

def percentDecoded (s : String) : Except Utf8Fault String := decode (percentDecode (bytesOf s))

/-! ### Writing -/

def hexDigit (n : UInt8) : UInt8 := if n < 10 then n + 0x30 else n - 10 + 0x41

/-- The bytes that need no escape anywhere in an address. -/
def isUnreserved (b : UInt8) : Bool :=
  (0x30 ≤ b && b ≤ 0x39) || (0x41 ≤ b && b ≤ 0x5A) || (0x61 ≤ b && b ≤ 0x7A)
    || b == 0x2D || b == 0x2E || b == 0x5F || b == 0x7E

def percentByte (b : UInt8) : List UInt8 :=
  if isUnreserved b then [b] else [0x25, hexDigit (b / 16), hexDigit (b % 16)]

/-- The bytes with an escape in the place of each that needs one. -/
def percentEncode (bytes : List UInt8) : List UInt8 := bytes.flatMap percentByte

def percentEncoded (s : String) : String :=
  String.ofList ((percentEncode (bytesOf s)).map fun b => Char.ofNat b.toNat)

/-- The escape of a byte is read as that byte, whatever comes after it. -/
theorem escape?_percentByte (b : UInt8) (rest : List UInt8) :
    escape? (percentByte b ++ rest) = if isUnreserved b then none else some b := by
  have key : ∀ n : Fin 256, let b := UInt8.ofNat n
      isUnreserved b = true ∧ b ≠ 0x25 ∨ isUnreserved b = false ∧
        hexDigit? (hexDigit (b / 16)) = some (b / 16) ∧
        hexDigit? (hexDigit (b % 16)) = some (b % 16) ∧ b / 16 * 16 + b % 16 = b := by
    decide +kernel
  have hb : UInt8.ofNat b.toNat = b := by simp
  have h := key ⟨b.toNat, b.toNat_lt⟩
  simp only [hb] at h
  rcases h with ⟨h₁, h₂⟩ | ⟨h₁, h₂, h₃, h₄⟩
  · simp only [percentByte, h₁, if_true, List.cons_append, List.nil_append]
    unfold escape?
    split
    · next heq => simp at heq; exact absurd heq.1 h₂
    · rfl
  · simp [percentByte, h₁, escape?, h₂, h₃, h₄]

/-- Decoding undoes encoding, for every sequence of bytes. -/
theorem percentDecode_percentEncode (bytes : List UInt8) :
    percentDecode (percentEncode bytes) = bytes := by
  induction bytes with
  | nil => simp [percentEncode, percentDecode]
  | cons b rest ih =>
    have h := escape?_percentByte b (percentEncode rest)
    have e : percentEncode (b :: rest) = percentByte b ++ percentEncode rest := by
      simp [percentEncode]
    rw [e]
    cases hu : isUnreserved b
    · simp only [hu, percentByte, Bool.false_eq_true, if_false, List.cons_append,
        List.nil_append] at h ⊢
      rw [percentDecode, h]
      simp [ih]
    · simp only [hu, percentByte, if_true, List.cons_append, List.nil_append] at h ⊢
      rw [percentDecode, h]
      simp [ih]

/-! ### Parts -/

def splitBy {α : Type} [BEq α] (separator : α) : List α → List (List α)
  | [] => [[]]
  | a :: rest =>
    match splitBy separator rest with
    | [] => [[a]]
    | part :: parts => if a == separator then [] :: part :: parts else (a :: part) :: parts

def formDecoded (bytes : List UInt8) : String :=
  decodeLossy (percentDecode (bytes.map fun b => if b == 0x2B then 0x20 else b))

def formParameters (s : String) : List (String × String) :=
  (splitBy 0x26 (bytesOf s)).filterMap fun part =>
    if part.isEmpty then none
    else
      let name := part.takeWhile (· != 0x3D)
      some (formDecoded name, formDecoded (part.drop (name.length + 1)))

end Sift.Text

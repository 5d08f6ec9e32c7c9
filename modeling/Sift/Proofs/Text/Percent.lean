import Mathlib.Data.Bool.AllAny
import Sift.Proofs.Text.Utf8

/-!
# Segments and parameters read back

A name can be written as one segment of a path: the bytes that mean something else there, and any
others, are percent-encoded. `WritesSegment` is the relation between a segment and the name that it
is decoded to; every name is written by its `percentEncoded` form (`writesSegment_percentEncoded`).
A form parameter whose characters mean themselves is written as it is (`formParameters_single`).

Main statements: `writesSegment_percentEncoded` and `formParameters_single`.
-/

namespace Sift.Text

/-! ## Splitting -/

section Splitting

variable {α : Type} [BEq α] {separator : α}

theorem splitBy_ne_nil (separator : α) (l : List α) : splitBy separator l ≠ [] := by
  cases l with
  | nil => exact List.cons_ne_nil _ _
  | cons a l =>
    unfold splitBy
    split
    · exact List.cons_ne_nil _ _
    · split <;> exact List.cons_ne_nil _ _

theorem splitBy_of_not_mem [LawfulBEq α] {l : List α} (h : separator ∉ l) :
    splitBy separator l = [l] := by
  induction l with
  | nil => rfl
  | cons a l ih =>
    obtain ⟨ha, hl⟩ := not_or.mp (mt List.mem_cons.mpr h)
    simp [splitBy, ih hl, Ne.symm ha]

/-- A list splits at its first separator. -/
theorem splitBy_append [LawfulBEq α] {part : List α} (h : separator ∉ part) (rest : List α) :
    splitBy separator (part ++ separator :: rest) = part :: splitBy separator rest := by
  induction part with
  | nil =>
    cases hrest : splitBy separator rest with
    | nil => exact absurd hrest (splitBy_ne_nil separator rest)
    | cons first parts => simp [splitBy, hrest]
  | cons a part ih =>
    obtain ⟨ha, hpart⟩ := not_or.mp (mt List.mem_cons.mpr h)
    simp [splitBy, ih hpart, Ne.symm ha]

end Splitting

/-! ## Segments of a path -/

/-- The text is one segment of a path and percent-encodes a name. Any byte may be encoded, also one
that need not be. -/
structure WritesSegment (segment name : String) : Prop where
  plain : ∀ c ∈ segment.toList, c ≠ '/' ∧ c ≠ '?' ∧ c ≠ '#'
  decoded : percentDecoded segment = .ok name

theorem percentDecode_eq_nil_iff {bytes : List UInt8} : percentDecode bytes = [] ↔ bytes = [] := by
  cases bytes with
  | nil => simp [percentDecode]
  | cons b bytes =>
    unfold percentDecode
    split <;> simp

theorem percentByte_plain (b : UInt8) :
    ∀ x ∈ percentByte b, x.toNat < 0x80 ∧ Char.ofNat x.toNat ∉ ['/', '?', '#'] := by
  -- All bytes are gone through by computation, since an escape may start with any of them.
  have hall : (List.range 256).all (fun n => (percentByte (UInt8.ofNat n)).all fun x =>
      decide (x.toNat < 0x80) && !(['/', '?', '#'].contains (Char.ofNat x.toNat))) = true := by
    decide +kernel
  intro x hx
  have hbyte := List.all_eq_true.mp hall b.toNat (List.mem_range.mpr b.toNat_lt)
  rw [UInt8.ofNat_toNat] at hbyte
  simpa using List.all_eq_true.mp hbyte x hx

/-- What is written with escapes is ASCII without any character that ends a path. -/
theorem percentEncode_plain (bytes : List UInt8) :
    ∀ x ∈ percentEncode bytes, x.toNat < 0x80 ∧ Char.ofNat x.toNat ∉ ['/', '?', '#'] := by
  intro x hx
  obtain ⟨b, -, hb⟩ := List.mem_flatMap.mp hx
  exact percentByte_plain b x hb

theorem bytesOf_percentEncoded (s : String) :
    bytesOf (percentEncoded s) = percentEncode (bytesOf s) :=
  bytesOf_ascii fun x hx => (percentEncode_plain _ x hx).1

/-- Every name can be written as a segment. -/
theorem writesSegment_percentEncoded (name : String) :
    WritesSegment (percentEncoded name) name where
  plain := by
    intro c hc
    rw [percentEncoded, String.toList_ofList] at hc
    obtain ⟨x, hx, rfl⟩ := List.mem_map.mp hc
    simpa using (percentEncode_plain _ x hx).2
  decoded := by
    rw [percentDecoded, bytesOf_percentEncoded, percentDecode_percentEncode, decode_bytesOf]

namespace WritesSegment

variable {segment name : String}

/-- A segment has no slash, even if the name that it writes has one. -/
theorem slash_not_mem (h : WritesSegment segment name) : '/' ∉ segment.toList :=
  fun hmem => (h.plain _ hmem).1 rfl

/-- The empty segment writes the empty name, and no other segment does. -/
theorem eq_empty_iff (h : WritesSegment segment name) : segment = "" ↔ name = "" := by
  constructor
  · rintro rfl
    exact Except.ok.inj (h.decoded.symm.trans (by decide +kernel))
  · rintro rfl
    have hbytes := percentDecode_eq_nil_iff.mp (decode_eq_ok_empty_iff.mp h.decoded)
    exact bytesOf_eq_nil_iff.mp hbytes

end WritesSegment

/-! ## Parameters of a form -/

def formMarks : List Char := ['%', '+', '&', '=']

theorem percentDecode_of_not_mem {bytes : List UInt8} (h : 0x25 ∉ bytes) :
    percentDecode bytes = bytes := by
  induction bytes with
  | nil => rw [percentDecode]
  | cons b bytes ih =>
    obtain ⟨hb, hbytes⟩ := not_or.mp (mt List.mem_cons.mpr h)
    have hescape : escape? (b :: bytes) = none := by
      unfold escape?
      split
      · next heq => exact absurd (List.cons.inj heq).1.symm hb
      · rfl
    rw [percentDecode, hescape, ih hbytes]

/-- The byte of a mark is not among the bytes of a text without it. -/
theorem mark_not_mem_bytesOf {s : String} {c : Char} (h : c ∉ s.toList) (hc : c.toNat < 0x80) :
    UInt8.ofNat c.toNat ∉ bytesOf s := by
  intro hmem
  have hbyte : (UInt8.ofNat c.toNat).toNat = c.toNat := by
    rw [UInt8.toNat_ofNat']
    omega
  have hchar := char_mem_of_mem_bytesOf hmem (hbyte.symm ▸ hc)
  rw [hbyte, Char.ofNat_toNat] at hchar
  exact h hchar

/-- A text without the marks of a form stands for itself. -/
theorem formDecoded_bytesOf {s : String} (h : ∀ c ∈ s.toList, c ∉ formMarks) :
    formDecoded (bytesOf s) = s := by
  have hmark {c : Char} (hc : c ∈ formMarks) (hascii : c.toNat < 0x80) :
      UInt8.ofNat c.toNat ∉ bytesOf s :=
    mark_not_mem_bytesOf (fun hmem => h c hmem hc) hascii
  have hplus : (bytesOf s).map (fun b => if b == 0x2B then 0x20 else b) = bytesOf s := by
    refine List.map_congr_left (g := id) (fun b hb => ?_) |>.trans (List.map_id _)
    have hne : b ≠ 0x2B := by
      rintro rfl
      exact hmark (c := '+') (by decide) (by decide) hb
    simp [hne]
  rw [formDecoded, hplus, percentDecode_of_not_mem (hmark (c := '%') (by decide) (by decide)),
    decodeLossy_bytesOf]

/-- A name and a value without marks are the only parameter of a form that says so. -/
theorem formParameters_single {name value : String} (hname : ∀ c ∈ name.toList, c ∉ formMarks)
    (hvalue : ∀ c ∈ value.toList, c ∉ formMarks) :
    formParameters (name ++ "=" ++ value) = [(name, value)] := by
  have hequals : 0x3D ∉ bytesOf name :=
    mark_not_mem_bytesOf (c := '=') (fun h => hname _ h (by decide)) (by decide)
  have hwhole : bytesOf (name ++ "=" ++ value) = bytesOf name ++ 0x3D :: bytesOf value := by
    rw [bytesOf_append, bytesOf_append, List.append_assoc]
    rfl
  have hand : 0x26 ∉ bytesOf (name ++ "=" ++ value) := by
    refine mark_not_mem_bytesOf (c := '&') (fun h => ?_) (by decide)
    simp only [String.toList_append, List.mem_append] at h
    rcases h with (h | h) | h
    · exact hname _ h (by decide)
    · exact absurd h (by decide)
    · exact hvalue _ h (by decide)
  have hname' : (bytesOf name ++ 0x3D :: bytesOf value).takeWhile (· != 0x3D) = bytesOf name := by
    rw [List.takeWhile_append_of_pos]
    · simp
    · intro b hb
      have hne : b ≠ 0x3D := by
        rintro rfl
        exact hequals hb
      simpa using hne
  -- There is one parameter, and its name ends at the only equals sign.
  rw [formParameters, splitBy_of_not_mem hand, hwhole]
  simp [hname', formDecoded_bytesOf hname, formDecoded_bytesOf hvalue]

end Sift.Text

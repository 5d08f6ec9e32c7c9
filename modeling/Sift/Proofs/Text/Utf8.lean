import Mathlib.Tactic.IntervalCases
import Sift.Text.Percent

/-!
# Reading UTF-8 back

Decoding the bytes of a text gives the text, be it strictly or with replacement characters. All is
in the step for one character (`character_utf8EncodeChar`): its first byte announces how many bytes
follow and in which range the next one lies, and the bits that the bytes hold make up the character.
What comes after the character makes no difference to the step, so the bytes of a text are read one
character at a time.

Conversely, what is ASCII among the bytes of a text is a character of the text
(`char_mem_of_mem_bytesOf`), so that separators can be looked for in either.

Main statements: `decode_bytesOf` and `decodeLossy_bytesOf`.
-/

namespace Sift.Text

/-! ## Lead bytes -/

theorem lead?_one {n : Nat} (h : n < 0x80) : lead? n = some ⟨0, 0, 0, n⟩ := by
  simp [lead?, h]

theorem lead?_two {n : Nat} (h : 2 ≤ n) (h' : n < 0x20) :
    lead? (n + 0xC0) = some ⟨1, 0x80, 0xBF, n⟩ := by
  interval_cases n <;> rfl

/-- The least of three bytes would be overlong, and the surrogates are left out. -/
theorem lead?_three {n : Nat} (h : n < 0x10) :
    lead? (n + 0xE0)
      = some ⟨2, if n = 0 then 0xA0 else 0x80, if n = 0xD then 0x9F else 0xBF, n⟩ := by
  interval_cases n <;> rfl

/-- The least of four bytes would be overlong, and the largest are beyond Unicode. -/
theorem lead?_four {n : Nat} (h : n < 5) :
    lead? (n + 0xF0)
      = some ⟨3, if n = 0 then 0x90 else 0x80, if n = 4 then 0x8F else 0xBF, n⟩ := by
  interval_cases n <;> rfl

/-! ## One character -/

/-- A lead byte says how many bytes the character goes on for. -/
theorem character_of_lead {n owed low high bits : Nat} (hn : n < 0x100)
    (h : lead? n = some ⟨owed, low, high, bits⟩) (rest : List UInt8) :
    character (UInt8.ofNat n) rest = continuation 1 owed low high bits rest := by
  have hb : (UInt8.ofNat n).toNat = n := by
    rw [UInt8.toNat_ofNat']
    omega
  simp only [character, hb, h]

/-- A byte in range adds its six bits. -/
theorem continuation_cons {seen owed low high value n : Nat} (hn : n < 0x40)
    (h : low ≤ n + 0x80 ∧ n + 0x80 ≤ high) (rest : List UInt8) :
    continuation seen (owed + 1) low high value (UInt8.ofNat (n + 0x80) :: rest)
      = continuation (seen + 1) owed 0x80 0xBF (value * 0x40 + n) rest := by
  have hb : (UInt8.ofNat (n + 0x80)).toNat = n + 0x80 := by
    rw [UInt8.toNat_ofNat']
    omega
  simp only [continuation, hb, h, decide_true, Bool.and_self, if_true, Nat.add_sub_cancel]

/-- The step that reads a character takes its bytes and gives it back, whatever follows. -/
theorem character_utf8EncodeChar (c : Char) (rest : List UInt8) :
    ∃ b bs, String.utf8EncodeChar c = b :: bs
      ∧ character b (bs ++ rest) = .ok (c, bs.length + 1) := by
  obtain ⟨v, hv⟩ : ∃ v, c.val.toNat = v := ⟨_, rfl⟩
  have hvalid : v < 0xD800 ∨ 0xDFFF < v ∧ v < 0x110000 := hv ▸ c.valid
  have hc : Char.ofNat v = c := hv ▸ Char.ofNat_toNat c
  simp only [String.utf8EncodeChar, hv]
  -- One to four bytes: each time the bits of the lead and of the others add up to the code.
  split_ifs with h₁ h₂ h₃
  · refine ⟨_, _, rfl, ?_⟩
    rw [character_of_lead (by omega) (lead?_one (by omega))]
    simp [continuation, hc]
  · have hlead : v / 0x40 % 0x20 = v / 0x40 := by omega
    have hvalue : v / 0x40 * 0x40 + v % 0x40 = v := by omega
    refine ⟨_, _, rfl, ?_⟩
    rw [hlead, character_of_lead (by omega) (lead?_two (by omega) (by omega)), List.cons_append,
      continuation_cons (by omega) (by omega)]
    simp [continuation, hvalue, hc]
  · have hlead : v / 0x1000 % 0x10 = v / 0x1000 := by omega
    have hvalue : (v / 0x1000 * 0x40 + v / 0x40 % 0x40) * 0x40 + v % 0x40 = v := by omega
    refine ⟨_, _, rfl, ?_⟩
    rw [hlead, character_of_lead (by omega) (lead?_three (by omega)), List.cons_append,
      List.cons_append, continuation_cons (by omega) (by split_ifs <;> omega),
      continuation_cons (by omega) (by omega)]
    simp [continuation, hvalue, hc]
  · have hlead : v / 0x40000 % 0x8 = v / 0x40000 := by omega
    have hvalue : ((v / 0x40000 * 0x40 + v / 0x1000 % 0x40) * 0x40 + v / 0x40 % 0x40) * 0x40
        + v % 0x40 = v := by omega
    refine ⟨_, _, rfl, ?_⟩
    rw [hlead, character_of_lead (by omega) (lead?_four (by omega)), List.cons_append,
      List.cons_append, List.cons_append, continuation_cons (by omega) (by split_ifs <;> omega),
      continuation_cons (by omega) (by omega), continuation_cons (by omega) (by omega)]
    simp [continuation, hvalue, hc]

/-- The bytes of a character beyond ASCII are beyond ASCII. -/
theorem toNat_eq_of_mem_utf8EncodeChar {c : Char} {b : UInt8} (h : b ∈ String.utf8EncodeChar c)
    (hb : b.toNat < 0x80) : b.toNat = c.val.toNat := by
  simp only [String.utf8EncodeChar] at h
  split_ifs at h <;> simp only [List.mem_cons, List.not_mem_nil, or_false] at h
  · rw [h, UInt8.toNat_ofNat']
    omega
  · rcases h with rfl | rfl <;> simp only [UInt8.toNat_ofNat'] at hb <;> omega
  · rcases h with rfl | rfl | rfl <;> simp only [UInt8.toNat_ofNat'] at hb <;> omega
  · rcases h with rfl | rfl | rfl | rfl <;> simp only [UInt8.toNat_ofNat'] at hb <;> omega

/-! ## Texts -/

theorem bytesOf_ofList_cons (c : Char) (cs : List Char) :
    bytesOf (String.ofList (c :: cs)) = String.utf8EncodeChar c ++ bytesOf (String.ofList cs) := by
  simp [bytesOf]

theorem bytesOf_append (s t : String) : bytesOf (s ++ t) = bytesOf s ++ bytesOf t := by
  simp [bytesOf]

theorem length_bytesOf_replicate {c : Char} (h : c.utf8Size = 1) (n : Nat) :
    (bytesOf (String.ofList (List.replicate n c))).length = n := by
  simp [bytesOf, h]

theorem bytesOf_eq_nil_iff {s : String} : bytesOf s = [] ↔ s = "" := by
  constructor
  · intro h
    rw [← String.toList_eq_nil_iff, List.eq_nil_iff_forall_not_mem]
    simpa [bytesOf] using h
  · rintro rfl
    rfl

/-- A byte of ASCII in a text is a character of the text. -/
theorem char_mem_of_mem_bytesOf {s : String} {b : UInt8} (h : b ∈ bytesOf s)
    (hb : b.toNat < 0x80) : Char.ofNat b.toNat ∈ s.toList := by
  obtain ⟨c, hc, hmem⟩ := List.mem_flatMap.mp h
  rw [toNat_eq_of_mem_utf8EncodeChar hmem hb]
  exact (Char.ofNat_toNat c).symm ▸ hc

theorem toNat_ofNat_of_ascii {n : Nat} (h : n < 0x80) : (Char.ofNat n).val.toNat = n := by
  have hvalid : n.isValidChar := .inl (by omega)
  rw [Char.ofNat, dif_pos hvalid]
  rfl

/-- A text of ASCII is its bytes. -/
theorem bytesOf_ascii {bytes : List UInt8} (h : ∀ b ∈ bytes, b.toNat < 0x80) :
    bytesOf (String.ofList (bytes.map fun b => Char.ofNat b.toNat)) = bytes := by
  induction bytes with
  | nil => rfl
  | cons b bytes ih =>
    obtain ⟨hb, hbytes⟩ := List.forall_mem_cons.mp h
    have hencoded : String.utf8EncodeChar (Char.ofNat b.toNat) = [b] := by
      simp only [String.utf8EncodeChar, toNat_ofNat_of_ascii hb]
      rw [if_pos (by omega), UInt8.ofNat_toNat]
    rw [List.map_cons, bytesOf_ofList_cons, hencoded, ih hbytes, List.singleton_append]

/-- The bytes of a text are decoded character by character. -/
theorem decodeFrom_bytesOf (index : Nat) (done cs : List Char) :
    decodeFrom index done (bytesOf (String.ofList cs)) = .ok (done.reverse ++ cs) := by
  induction cs generalizing index done with
  | nil => simp [bytesOf, decodeFrom]
  | cons c cs ih =>
    obtain ⟨b, bs, hbytes, hstep⟩ := character_utf8EncodeChar c (bytesOf (String.ofList cs))
    rw [bytesOf_ofList_cons, hbytes, List.cons_append, decodeFrom, hstep]
    simp [ih]

theorem decodeLossyFrom_bytesOf (done cs : List Char) :
    decodeLossyFrom done (bytesOf (String.ofList cs)) = done.reverse ++ cs := by
  induction cs generalizing done with
  | nil => simp [bytesOf, decodeLossyFrom]
  | cons c cs ih =>
    obtain ⟨b, bs, hbytes, hstep⟩ := character_utf8EncodeChar c (bytesOf (String.ofList cs))
    rw [bytesOf_ofList_cons, hbytes, List.cons_append, decodeLossyFrom, hstep]
    simp [ih]

/-- Every text is decoded from its bytes. -/
theorem decode_bytesOf (s : String) : decode (bytesOf s) = .ok s := by
  have h := decodeFrom_bytesOf 0 [] s.toList
  rw [String.ofList_toList] at h
  simp [decode, h, Except.map]

/-- What was read is kept. -/
theorem length_le_of_decodeFrom {index : Nat} {done cs : List Char} {bytes : List UInt8}
    (h : decodeFrom index done bytes = .ok cs) : done.length ≤ cs.length := by
  fun_induction decodeFrom index done bytes with
  | case1 => cases h; simp
  | case2 _ _ _ _ _ _ _ ih => exact Nat.le_of_succ_le (ih h)
  | case3 => cases h

/-- Only no bytes encode the empty text. -/
theorem decode_eq_ok_empty_iff {bytes : List UInt8} : decode bytes = .ok "" ↔ bytes = [] := by
  constructor
  · intro h
    cases bytes with
    | nil => rfl
    | cons b rest =>
      unfold decode decodeFrom at h
      split at h
      · next c n hc =>
        cases hrest : decodeFrom (0 + n) [c] (rest.drop (n - 1)) with
        | error f => rw [hrest] at h; cases h
        | ok cs =>
          have hlength := length_le_of_decodeFrom hrest
          rw [hrest] at h
          have hcs : cs = [] := String.ofList_injective (Except.ok.inj h)
          simp [hcs] at hlength
      · cases h
  · rintro rfl
    exact decode_bytesOf ""

/-- Where nothing is wrong, the lossy decoder loses nothing. -/
theorem decodeLossy_bytesOf (s : String) : decodeLossy (bytesOf s) = s := by
  have h := decodeLossyFrom_bytesOf [] s.toList
  rw [String.ofList_toList] at h
  simp [decodeLossy, h]

end Sift.Text

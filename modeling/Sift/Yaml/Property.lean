import Sift.Text.Utf8
import Sift.Yaml.Scalar.Quoted

/-!
# Names, tags and directives

Nodes can be named by anchors and typed by tags. A tag is written with a handle, which stands for
the first part of it and which a directive may declare, or in full between `<` and `>`.

Main statements: `name?_length`, `tag?_length` and `directive?_length`.
-/

namespace Sift.Yaml

def name? (marks : List Mark) : Option (String × List Mark) :=
  let name := chars (marks.takeWhile fun m => isWordChar m.char)
  let rest := marks.dropWhile fun m => isWordChar m.char
  if !name.isEmpty && (atGap rest || startsWith ['?', ':', ',', ']', '\x7d', '%', '@', '\x60'] rest)
  then some (String.ofList name, rest)
  else none

/-! ### Tags -/

/-- The characters of a tag; one that is written in full may hold flow indicators. -/
def isTagChar (inFull : Bool) (c : Char) : Bool :=
  isWordChar c || ";/?:@&=+$.!~*'()".toList.contains c
    || (inFull && (c == ',' || c == '[' || c == ']'))

def octetCount? (n : Nat) : Option Nat :=
  if n < 0x80 then some 1
  else if 0xC0 ≤ n && n < 0xE0 then some 2
  else if 0xE0 ≤ n && n < 0xF0 then some 3
  else if 0xF0 ≤ n && n < 0xF8 then some 4
  else none

/-- How many more octets are owed after one, `owed` having been owed before. -/
def owedAfter? (owed octet : Nat) : Option Nat :=
  if owed = 0 then (octetCount? octet).map (· - 1)
  else if 0x80 ≤ octet && octet < 0xC0 then some (owed - 1)
  else none

/-- The octets of a tag, in which a percent sign and two digits write one. -/
def octets? (inFull : Bool) (owed : Nat) : List Mark → Option (List UInt8 × List Mark)
  | [] => if owed = 0 then some ([], []) else none
  | m :: rest =>
    if m.char == '%' then
      match rest with
      | h :: l :: more =>
        match hexValue? [h.char, l.char] with
        | none => none
        | some n =>
          match owedAfter? owed n with
          | none => none
          | some owed => (octets? inFull owed more).map fun (os, r) => (UInt8.ofNat n :: os, r)
      | _ => none
    else if owed ≠ 0 then none
    else if isTagChar inFull m.char then
      (octets? inFull 0 rest).map fun (os, r) => (UInt8.ofNat m.char.toNat :: os, r)
    else some ([], m :: rest)

def someOctets? (inFull : Bool) (marks : List Mark) : Option (List UInt8 × List Mark) :=
  match octets? inFull 0 marks with
  | some (o :: os, rest) => some (o :: os, rest)
  | _ => none

/-- The text of octets, which a zero ends. -/
def octetText (os : List UInt8) : String := Text.decodeLossy (os.takeWhile (· != 0))

structure Tag where
  /-- Empty if the tag is written in full. -/
  handle : String
  suffix : String
  deriving DecidableEq, Repr

/-- Reads a tag after its first exclamation mark, without regard to what follows. -/
def tagText? (marks : List Mark) : Option (Tag × List Mark) :=
  let name := marks.takeWhile fun m => isWordChar m.char
  let rest := marks.dropWhile fun m => isWordChar m.char
  match marks, rest with
  | ⟨'<', _, _, _⟩ :: more, _ =>
    match someOctets? true more with
    | some (os, ⟨'>', _, _, _⟩ :: rest) => some (⟨"", octetText os⟩, rest)
    | _ => none
  | _, ⟨'!', _, _, _⟩ :: more =>
    (someOctets? false more).map fun (os, rest) =>
      (⟨String.ofList ('!' :: chars name ++ ['!']), octetText os⟩, rest)
  | _, _ =>
    (octets? false 0 rest).map fun (os, rest) =>
      let suffix := String.ofList (chars name) ++ octetText os
      (if suffix.isEmpty then ⟨"", "!"⟩ else ⟨"!", suffix⟩, rest)

def tag? (inFlow : Bool) (marks : List Mark) : Option (Tag × List Mark) :=
  match tagText? marks with
  | none => none
  | some (tag, rest) =>
    if atGap rest || (inFlow && startsWith [','] rest) then some (tag, rest) else none

/-! ### Directives -/

inductive Directive where
  /-- The version of the format. -/
  | version (major minor : Nat)
  /-- A handle and what it stands for. -/
  | handle (name expansion : String)
  deriving DecidableEq, Repr

def shortNumber? (marks : List Mark) : Option (Nat × List Mark) :=
  let digits := chars (marks.takeWhile (·.char.isDigit))
  if digits.isEmpty || 9 < digits.length then none
  else
    some (digits.foldl (fun n c => 10 * n + (c.toNat - '0'.toNat)) 0,
      marks.dropWhile (·.char.isDigit))

def version? (marks : List Mark) : Option (Directive × List Mark) :=
  match shortNumber? marks with
  | some (major, ⟨'.', _, _, _⟩ :: rest) =>
    (shortNumber? rest).map fun (minor, rest) => (.version major minor, rest)
  | _ => none

/-- A handle and its expansion: an exclamation mark, or a word between two of them. -/
def handle? : List Mark → Option (Directive × List Mark)
  | ⟨'!', _, _, _⟩ :: marks =>
    let name := marks.takeWhile fun m => isWordChar m.char
    let (closed, rest) := match marks.dropWhile fun m => isWordChar m.char with
      | ⟨'!', _, _, _⟩ :: rest => (true, rest)
      | rest => (false, rest)
    let handle := '!' :: chars name ++ if closed then ['!'] else []
    if (closed || name.isEmpty) && startsWith [' ', '\t'] rest then
      match someOctets? true (rest.dropWhile fun m => isBlank m.char) with
      | some (os, rest) =>
        if atGap rest then
          some (.handle (String.ofList handle) (octetText os), rest)
        else none
      | none => none
    else none
  | _ => none

/-- Reads a directive after its percent sign, up to the end of its line. -/
def directive? (marks : List Mark) : Option (Directive × List Mark) :=
  let name := chars (marks.takeWhile fun m => isWordChar m.char)
  let rest := marks.dropWhile fun m => isWordChar m.char
  let values := rest.dropWhile fun m => isBlank m.char
  let read := if name = "YAML".toList then version? values
    else if name = "TAG".toList then handle? values
    else none
  if atGap rest then
    match read with
    | some (d, rest) => (afterLine? rest).map (d, ·)
    | none => none
  else none

/-! ### Lengths -/

theorem name?_length {marks rest : List Mark} {name : String}
    (h : name? marks = some (name, rest)) : rest.length ≤ marks.length := by
  have := (List.dropWhile_suffix (l := marks) (fun m => isWordChar m.char)).length_le
  simp only [name?] at h
  split at h <;> simp at h
  rw [← h.2]; exact this

/-- The octets of a tag are read from the front of what is there. -/
theorem octets?_length {inFull : Bool} {owed : Nat} {marks rest : List Mark} {os : List UInt8}
    (h : octets? inFull owed marks = some (os, rest)) : rest.length ≤ marks.length := by
  unfold octets? at h
  split at h
  · split at h
    · cases h
      exact Nat.le_refl _
    · cases h
  · split at h
    · split at h
      · split at h
        · cases h
        · split at h
          · cases h
          · obtain ⟨⟨_, r⟩, hr, e⟩ := Option.map_eq_some_iff.mp h
            obtain ⟨-, rfl⟩ := Prod.mk.inj e
            have := octets?_length hr
            simp only [List.length_cons]
            omega
      · cases h
    · split at h
      · cases h
      · split at h
        · obtain ⟨⟨_, r⟩, hr, e⟩ := Option.map_eq_some_iff.mp h
          obtain ⟨-, rfl⟩ := Prod.mk.inj e
          have := octets?_length hr
          simp only [List.length_cons]
          omega
        · cases h
          exact Nat.le_refl _
termination_by marks.length

theorem someOctets?_length {inFull : Bool} {marks rest : List Mark} {os : List UInt8}
    (h : someOctets? inFull marks = some (os, rest)) : rest.length ≤ marks.length := by
  unfold someOctets? at h
  split at h <;> simp at h
  next he => rw [← h.2]; exact octets?_length he

theorem tagText?_length {marks rest : List Mark} {tag : Tag}
    (h : tagText? marks = some (tag, rest)) : rest.length ≤ marks.length := by
  have hd := (List.dropWhile_suffix (l := marks) (fun m => isWordChar m.char)).length_le
  simp only [tagText?] at h
  split at h
  · split at h <;> simp at h
    next ho =>
      have := someOctets?_length ho
      rw [← h.2]
      simp only [List.length_cons] at *
      omega
  · next hm =>
    simp only [Option.map_eq_some_iff, Prod.mk.injEq] at h
    obtain ⟨⟨_, r⟩, hr, _, rfl⟩ := h
    have := someOctets?_length hr
    simp only [hm, List.length_cons] at hd
    exact Nat.le_trans this (by omega)
  · simp only [Option.map_eq_some_iff, Prod.mk.injEq] at h
    obtain ⟨⟨_, r⟩, hr, _, rfl⟩ := h
    exact Nat.le_trans (octets?_length hr) hd

/-- A tag of any of its forms leaves no more than there was. -/
theorem tag?_length {inFlow : Bool} {marks rest : List Mark} {tag : Tag}
    (h : tag? inFlow marks = some (tag, rest)) : rest.length ≤ marks.length := by
  unfold tag? at h
  split at h
  · simp at h
  · next ht =>
    split at h <;> simp at h
    rw [← h.2]; exact tagText?_length ht

theorem shortNumber?_length {marks rest : List Mark} {n : Nat}
    (h : shortNumber? marks = some (n, rest)) : rest.length ≤ marks.length := by
  have := (List.dropWhile_suffix (l := marks) (·.char.isDigit)).length_le
  simp only [shortNumber?] at h
  split at h <;> simp at h
  rw [← h.2]; exact this

theorem version?_length {marks rest : List Mark} {d : Directive}
    (h : version? marks = some (d, rest)) : rest.length ≤ marks.length := by
  unfold version? at h
  split at h
  · next hm =>
    simp only [Option.map_eq_some_iff, Prod.mk.injEq] at h
    obtain ⟨⟨_, r⟩, hr, _, rfl⟩ := h
    have := shortNumber?_length hm
    have := shortNumber?_length hr
    simp only [List.length_cons] at *
    omega
  · simp at h

theorem handle?_length {marks rest : List Mark} {d : Directive}
    (h : handle? marks = some (d, rest)) : rest.length ≤ marks.length := by
  unfold handle? at h
  split at h
  · next marks =>
    have hd := (List.dropWhile_suffix (l := marks) (fun m => isWordChar m.char)).length_le
    generalize hs : (match marks.dropWhile fun m => isWordChar m.char with
      | ⟨'!', _, _, _⟩ :: rest => (true, rest)
      | rest => (false, rest)) = split at h
    -- With or without the mark that ends the handle.
    have hl : split.2.length ≤ marks.length := by
      rw [← hs]
      split <;> simp_all
      omega
    simp only at h
    split at h
    · split at h
      · next ho =>
        have h₁ := someOctets?_length ho
        have h₂ := (List.dropWhile_suffix (l := split.2) (fun m => isBlank m.char)).length_le
        split at h <;> simp at h
        rw [← h.2]
        simp only [List.length_cons]
        omega
      · simp at h
    · simp at h
  · simp at h

/-- A directive leaves no more than there was, whether or not its name is known. -/
theorem directive?_length {marks rest : List Mark} {d : Directive}
    (h : directive? marks = some (d, rest)) : rest.length ≤ marks.length := by
  have h₁ := (List.dropWhile_suffix (l := marks) (fun m => isWordChar m.char)).length_le
  have h₂ := (List.dropWhile_suffix
    (l := marks.dropWhile fun m => isWordChar m.char) (fun m => isBlank m.char)).length_le
  simp only [directive?] at h
  split at h
  · split at h
    · next hr =>
      simp only [Option.map_eq_some_iff, Prod.mk.injEq] at h
      obtain ⟨r, hl, _, rfl⟩ := h
      have h₃ := afterLine?_length hl
      split at hr
      · have := version?_length hr
        omega
      · split at hr
        · have := handle?_length hr
          omega
        · simp at hr
    · simp at h
  · simp at h

end Sift.Yaml

import Sift.Json.Token

/-!
# Reading JSON one token at a time

The first token of a text goes in front of the tokens of the rest (`tokensFrom?_cons`). Two kinds of
tokens are read for any text after them: the marks that are tokens by themselves, and strings all of
whose characters stand for themselves.

Main statements: `tokensFrom?_mark` and `tokensFrom?_string`.
-/

namespace Sift.Json

def IsVerbatim (c : Char) : Prop := c ≠ '"' ∧ c ≠ '\\' ∧ 0x20 ≤ c.toNat

instance : DecidablePred IsVerbatim := fun _ => inferInstanceAs (Decidable (_ ∧ _))

variable {c : Char} {cs rest : List Char} {t : Token}

/-- Characters that need no escape are read one by one, up to the quote. -/
theorem string?_verbatim (h : ∀ c ∈ cs, IsVerbatim c) (done : List Char) :
    string? none done (cs ++ '"' :: rest) = some (String.ofList (done.reverse ++ cs), rest) := by
  induction cs generalizing done with
  | nil => simp [string?]
  | cons c cs ih =>
    obtain ⟨⟨hquote, hslash, hcontrol⟩, hcs⟩ := List.forall_mem_cons.mp h
    rw [List.cons_append, string?]
    · simp [ih hcs, Nat.not_lt.mpr hcontrol]
    all_goals simp_all

/-- Outside a gap, the next token joins those that are done. -/
theorem tokensFrom?_cons (hgap : isGap c = false) (hnext : next? (c :: cs) = some (t, rest))
    (done : List Token) : tokensFrom? done (c :: cs) = tokensFrom? (t :: done) rest := by
  have hkeep : (c :: cs).dropWhile isGap = c :: cs := List.dropWhile_cons_of_neg (by simp [hgap])
  rw [tokensFrom?]
  split
  · next hnil => simp [hkeep] at hnil
  · next c' cs' hcons =>
    rw [hkeep] at hcons
    cases hcons
    split
    · next hn =>
      rw [hnext] at hn
      cases hn
      rfl
    · next hn =>
      rw [hnext] at hn
      cases hn

def marks : List (Char × Token) :=
  [('\x7b', .leftBrace), ('\x7d', .rightBrace), ('[', .leftBracket), (']', .rightBracket),
    (':', .colon), (',', .comma)]

/-- A mark is a token by itself, whatever follows it. -/
theorem tokensFrom?_mark (c : Char) (t : Token) (h : (c, t) ∈ marks) (done : List Token)
    (cs : List Char) : tokensFrom? done (c :: cs) = tokensFrom? (t :: done) cs := by
  simp only [marks, List.mem_cons, Prod.mk.injEq, List.not_mem_nil, or_false] at h
  rcases h with ⟨rfl, rfl⟩ | ⟨rfl, rfl⟩ | ⟨rfl, rfl⟩ | ⟨rfl, rfl⟩ | ⟨rfl, rfl⟩ | ⟨rfl, rfl⟩
  all_goals exact tokensFrom?_cons (by decide) rfl done

/-- A text in quotes is one token. -/
theorem tokensFrom?_string (h : ∀ c ∈ cs, IsVerbatim c)
    (done : List Token) : tokensFrom? done ('"' :: (cs ++ '"' :: rest))
      = tokensFrom? (.string (String.ofList cs) :: done) rest := by
  refine tokensFrom?_cons (by decide) ?_ done
  show (string? none [] (cs ++ '"' :: rest)).map _ = _
  rw [string?_verbatim h]
  rfl

end Sift.Json

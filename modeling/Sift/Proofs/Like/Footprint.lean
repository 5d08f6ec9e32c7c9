import Mathlib.Data.List.Count
import Sift.Like.Footprint

/-!
# Large patterns and small ones

Every symbol of a pattern adds to what the pattern takes up, and each wildcard for one character
adds the same. So a pattern with enough of them is too large to be built, whatever else is in it. A
character that case does not matter to adds less than a wildcard, so a pattern of such characters
and wildcards can be built if it is short.

Main statements: `isTooLarge_of_wildcards` and `isTooLarge_eq_false_of_caseless`.
-/

namespace Sift.Like

/-- What a wildcard for one character adds to the automaton that reads backward. -/
def wildcardSize : Nat := Footprint.anyOne.backward

theorem wildcardSize_eq : wildcardSize = 964 := by rw [wildcardSize, Footprint.anyOne_eq]

/-- Every wildcard for one character adds its full size to the automaton that reads backward. -/
theorem Footprint.le_backward_addSymbols (start : Footprint) (cs : List Char) :
    start.backward + wildcardSize * cs.count '_'
      ≤ (start.addSymbols (cs.map symbol)).backward := by
  -- Each symbol adds its own size to what those before it have taken up.
  induction cs generalizing start with
  | nil => simp [addSymbols]
  | cons c cs ih =>
    have hrest := ih (start + ofSymbol (symbol c))
    have hstep : start.addSymbols ((c :: cs).map symbol)
        = (start + ofSymbol (symbol c)).addSymbols (cs.map symbol) := rfl
    rw [hstep]
    rw [backward_add] at hrest
    by_cases hc : c = '_'
    · subst hc
      have hsize : (ofSymbol (symbol '_')).backward = wildcardSize := rfl
      rw [List.count_cons_self, Nat.mul_succ]
      omega
    · rw [List.count_cons_of_ne hc]
      omega

/-- A pattern of many wildcards is too large to be built. -/
theorem isTooLarge_of_wildcards {pattern : String}
    (h : sizeLimit < wildcardSize * pattern.toList.count '_') : isTooLarge pattern = true := by
  have hle := Footprint.frame.le_backward_addSymbols pattern.toList
  refine (isTooLarge_iff pattern).mpr (.inr ?_)
  show sizeLimit < (Footprint.frame.addSymbols (pattern.toList.map symbol)).backward
  omega

/-! ## Patterns that can be built -/

def Caseless (c : Char) : Prop := Text.caseVariants c = [c]

/-- A character is caseless if it is its own folding and no run of foldings leads to it. -/
theorem caseless_of_forall_covers {c : Char} (hfold : Text.foldCase c = c)
    (hruns : ∀ r ∈ Text.foldRuns, r.covers ((c.toNat : Int) - r.offset).toNat = false) :
    Caseless c := by
  unfold Caseless Text.caseVariants
  rw [hfold]
  have hnone : (Text.foldRuns.filterMap fun r =>
      if r.covers ((c.toNat : Int) - r.offset).toNat then
        some (Char.ofNat ((c.toNat : Int) - r.offset).toNat) else none) = [] := by
    rw [List.filterMap_eq_nil_iff]
    intro r hr
    rw [hruns r hr]
    rfl
  show (c :: List.filterMap _ _).mergeSort = [c]
  rw [hnone, List.mergeSort_singleton]

/-- What a symbol adds to an automaton at most, if it is a wildcard or case does not matter to
it. -/
def symbolSize : Nat := Footprint.anyRun.backward

theorem symbolSize_eq : symbolSize = 1004 := by
  rw [symbolSize, Footprint.anyRun, Footprint.anyOne_eq]
  rfl

namespace Footprint

/-- Neither a wildcard nor a caseless character takes more than a run does. -/
theorem ofSymbol_le {c : Char} (h : c = '%' ∨ c = '_' ∨ Caseless c) :
    (ofSymbol (symbol c)).forward ≤ symbolSize ∧ (ofSymbol (symbol c)).backward ≤ symbolSize := by
  rw [symbolSize_eq]
  unfold symbol
  split
  · show anyRun.forward ≤ _ ∧ anyRun.backward ≤ _
    rw [anyRun, anyOne_eq]
    decide
  · show anyOne.forward ≤ _ ∧ anyOne.backward ≤ _
    rw [anyOne_eq]
    decide
  · next hrun hone =>
    have hcaseless : Caseless c := (h.resolve_left hrun).resolve_left hone
    -- Without variants the character is its own folding, and its size is that of its encoding.
    have hfold : Text.foldCase c = c := by
      have hmem := Text.foldCase_mem_caseVariants c
      rw [hcaseless] at hmem
      exact List.mem_singleton.mp hmem
    have hchar : ofSymbol (.folded (Text.foldCase c)) = both (state * c.utf8Size) := by
      rw [hfold]
      show ofChar c = _
      unfold ofChar
      rw [hcaseless]
    have hsize := c.utf8Size_le_four
    rw [hchar]
    show state * c.utf8Size ≤ 1004 ∧ state * c.utf8Size ≤ 1004
    unfold state
    omega

/-- So the size of a pattern of such characters is bounded by its length. -/
theorem addSymbols_le (start : Footprint) {cs : List Char}
    (h : ∀ c ∈ cs, c = '%' ∨ c = '_' ∨ Caseless c) :
    (start.addSymbols (cs.map symbol)).forward ≤ start.forward + symbolSize * cs.length
      ∧ (start.addSymbols (cs.map symbol)).backward ≤ start.backward + symbolSize * cs.length := by
  induction cs generalizing start with
  | nil => exact ⟨Nat.le_refl _, Nat.le_refl _⟩
  | cons c cs ih =>
    obtain ⟨hc, hcs⟩ := List.forall_mem_cons.mp h
    obtain ⟨hforward, hbackward⟩ := ofSymbol_le hc
    have hrest := ih (start + ofSymbol (symbol c)) hcs
    have hstep : start.addSymbols ((c :: cs).map symbol)
        = (start + ofSymbol (symbol c)).addSymbols (cs.map symbol) := rfl
    rw [hstep, List.length_cons, Nat.mul_succ]
    rw [forward_add, backward_add] at hrest
    omega

end Footprint

/-- A short pattern of wildcards and characters that case does not matter to can be built. -/
theorem isTooLarge_eq_false_of_caseless {pattern : String}
    (h : ∀ c ∈ pattern.toList, c = '%' ∨ c = '_' ∨ Caseless c)
    (hlength : Footprint.frame.forward + symbolSize * pattern.toList.length ≤ sizeLimit) :
    isTooLarge pattern = false := by
  rw [← Bool.not_eq_true, isTooLarge_iff]
  have hle : (footprint pattern).forward ≤ _ ∧ (footprint pattern).backward ≤ _ :=
    Footprint.frame.addSymbols_le h
  have hframe : Footprint.frame.backward ≤ Footprint.frame.forward := by decide
  omega

/-- All characters of an operand are in its pattern. -/
theorem le_count_ofOperand (c : Char) (operand : String) :
    operand.toList.count c ≤ (ofOperand operand).toList.count c := by
  unfold ofOperand
  split
  · exact Nat.le_refl _
  · rw [String.toList_append, String.toList_append, List.count_append, List.count_append]
    omega

end Sift.Like

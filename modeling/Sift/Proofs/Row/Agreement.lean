import Mathlib.Data.List.Forall2
import Sift.Proofs.Row.Preorder
import Sift.Query
import Sift.Row.Filter

/-!
# Rows that agree in some columns

`Json.Alike` is equality of JSON values up to the order of fields, at any depth, and
`Json.AgreeOn seen` is its weakening to rows that need only be alike in the columns `seen`. Nothing
that is done to a row looks at the order of its fields or into an array or an object, so each test
and each comparison gives the same for rows that agree in the columns it mentions, and rows that
agree outside the hidden columns are alike once these are taken out.

Main statements: `compareRows_congr` and `Json.AgreeOn.project_alike`, and one congruence for each
kind of test (`predicate_holds_congr` and so on).
-/

namespace Sift

open List (Forall₂)

/-! ## Alike values -/

namespace Json

/-- Equality of JSON values up to the order of fields. Unlike `Json.same` it tells the two zeros
apart, as the order of rows does. -/
inductive Alike : Json → Json → Prop where
  | refl (v : Json) : Alike v v
  | array {xs ys : List Json} : Forall₂ Alike xs ys → Alike (.array xs) (.array ys)
  | object {fs gs : Fields} : (∀ c, Option.Rel Alike (fs.lookup c) (gs.lookup c)) →
      Alike (.object fs) (.object gs)

/-- The same column in two rows: missing from both, or alike. -/
def AlikeAt (a b : Json) (c : String) : Prop := Option.Rel Alike (a.field? c) (b.field? c)

theorem relAlike_refl (v : Option Json) : Option.Rel Alike v v := by
  cases v with
  | none => exact .none
  | some v => exact .some (.refl v)

/-- Rows that are alike in the columns `seen`. Only objects have columns; of other rows all is
seen. -/
inductive AgreeOn (seen : String → Prop) : Json → Json → Prop where
  | object {fs gs : Fields} : (∀ c, seen c → Option.Rel Alike (fs.lookup c) (gs.lookup c)) →
      AgreeOn seen (.object fs) (.object gs)
  | alike {v w : Json} : Alike v w → AgreeOn seen v w

theorem Alike.object_cons {v w : Json} (h : v.Alike w) (name : String) (rest : Fields) :
    (Json.object ((name, v) :: rest)).Alike (.object ((name, w) :: rest)) := by
  refine .object fun c => ?_
  rw [List.lookup_cons, List.lookup_cons]
  cases c == name with
  | true => exact .some h
  | false => exact relAlike_refl _

theorem Alike.alikeAt {a b : Json} (h : a.Alike b) (c : String) : a.AlikeAt b c := by
  cases h with
  | refl => exact relAlike_refl _
  | array _ => exact .none
  | object h => exact h c

/-- Rows that agree on some columns are alike at each of them. -/
theorem AgreeOn.alikeAt {seen : String → Prop} {a b : Json} (h : AgreeOn seen a b) {c : String}
    (hc : seen c) : a.AlikeAt b c := by
  cases h with
  | object h => exact h c hc
  | alike h => exact h.alikeAt c

/-- Alike at a column, two rows both lack it or hold alike values there. -/
theorem AlikeAt.both_missing_or_alike {a b : Json} {c : String} (h : a.AlikeAt b c) :
    (a.field? c = none ∧ b.field? c = none)
      ∨ ∃ v w, a.field? c = some v ∧ b.field? c = some w ∧ v.Alike w := by
  unfold AlikeAt at h
  generalize a.field? c = v at h ⊢
  generalize b.field? c = w at h ⊢
  cases h with
  | none => exact .inl ⟨rfl, rfl⟩
  | some h => exact .inr ⟨_, _, rfl, rfl, h⟩

end Json

open Json (AlikeAt AgreeOn)

/-! ## Alike values compare alike -/

/-- Alike values compare in the same way with every scalar. -/
theorem compareScalar_congr {v w : Json} (h : v.Alike w) (operand : Scalar) :
    compareScalar v operand = compareScalar w operand := by
  cases h <;> cases operand <;> rfl

theorem scalarText?_congr {v w : Json} (h : v.Alike w) : v.scalarText? = w.scalarText? := by
  cases h <;> rfl

theorem compareValues_congr_left {v w : Option Json} (h : Option.Rel Json.Alike v w)
    (u : Option Json) : compareValues v u = compareValues w u := by
  cases h with
  | none => rfl
  | some h =>
    cases h with
    | refl => rfl
    -- Of an array or an object only its kind counts, whatever it is compared with.
    | array _ => cases u <;> rfl
    | object _ => cases u <;> rfl

/-- Alike values are sorted in the same way against each other. -/
theorem compareValues_congr {v w v' w' : Option Json} (h : Option.Rel Json.Alike v w)
    (h' : Option.Rel Json.Alike v' w') : compareValues v v' = compareValues w w' := by
  -- The second values are exchanged in the place of the first, by turning the comparison around.
  calc compareValues v v'
    _ = compareValues w v' := compareValues_congr_left h v'
    _ = (compareValues v' w).swap := Std.OrientedCmp.eq_swap
    _ = (compareValues w' w).swap := by rw [compareValues_congr_left h' w]
    _ = compareValues w w' := Std.OrientedCmp.eq_swap.symm

/-! ## What is read off one column -/

section Column

variable {a b : Json} {c : String}

theorem isNullColumn_congr (h : AlikeAt a b c) : isNullColumn a c = isNullColumn b c := by
  unfold isNullColumn
  rcases h.both_missing_or_alike with ⟨ha, hb⟩ | ⟨v, w, ha, hb, hvw⟩
  · rw [ha, hb]
  · rw [ha, hb]
    cases hvw <;> rfl

theorem dayOf?_congr (h : AlikeAt a b c) : dayOf? a c = dayOf? b c := by
  unfold dayOf?
  rcases h.both_missing_or_alike with ⟨ha, hb⟩ | ⟨v, w, ha, hb, hvw⟩
  · rw [ha, hb]
  · rw [ha, hb]
    cases hvw <;> rfl

/-- A predicate looks at no column but its own. -/
theorem predicate_holds_congr {p : Predicate} (h : AlikeAt a b p.field) :
    p.holds a = p.holds b := by
  unfold Predicate.holds
  rcases h.both_missing_or_alike with ⟨ha, hb⟩ | ⟨v, w, ha, hb, hvw⟩
  · rw [ha, hb]
  · simp only [ha, hb, scalarText?_congr hvw, compareScalar_congr hvw]

theorem datePredicate_holds_congr {p : DatePredicate} (h : AlikeAt a b p.field) :
    p.holds a = p.holds b := by
  unfold DatePredicate.holds
  rw [dayOf?_congr h]

theorem nullCheck_holds_congr {p : NullCheck} (h : AlikeAt a b p.field) :
    p.holds a = p.holds b := by
  unfold NullCheck.holds
  rw [isNullColumn_congr h]

theorem range_holds_congr {p : RangeCheck} (h : AlikeAt a b p.field) : p.holds a = p.holds b := by
  unfold RangeCheck.holds
  rcases h.both_missing_or_alike with ⟨ha, hb⟩ | ⟨v, w, ha, hb, hvw⟩
  · rw [ha, hb]
  · simp only [ha, hb, compareScalar_congr hvw]

end Column

/-! ## Whole rows -/

/-- A sort looks at no column but those of its keys. -/
theorem compareRows_congr {seen : String → Prop} {keys : List SortKey} {a b a' b' : Json}
    (hkeys : ∀ k ∈ keys, seen k.field) (h : AgreeOn seen a b) (h' : AgreeOn seen a' b') :
    compareRows keys a a' = compareRows keys b b' := by
  induction keys with
  | nil => rfl
  | cons k keys ih =>
    obtain ⟨hk, hkeys⟩ := List.forall_mem_cons.mp hkeys
    have hvalues := compareValues_congr (h.alikeAt hk) (h'.alikeAt hk)
    rw [compareRows_cons, compareRows_cons, ih hkeys, SortKey.compare, hvalues, ← SortKey.compare]

namespace Json

/-- A field that is kept is found as before, and one that is not is found no more. -/
theorem lookup_filter (keep : String → Bool) (fields : Fields) (c : String) :
    (fields.filter fun f => keep f.1).lookup c = if keep c then fields.lookup c else none := by
  induction fields with
  | nil => simp
  | cons f rest ih =>
    obtain ⟨n, v⟩ := f
    by_cases hn : c = n
    · subst hn
      cases hk : keep c <;> simp [hk, ih]
    · have hn' : (c == n) = false := by simpa using hn
      cases hk : keep n <;> simp [hk, List.lookup_cons, hn', ih]

/-- Objects that differ in hidden columns only are shown alike. -/
theorem project_object_alike {e : Entity} {fs gs : Fields}
    (h : ∀ c, c ∉ e.hidden → Option.Rel Alike (fs.lookup c) (gs.lookup c)) :
    (e.project (.object fs)).Alike (e.project (.object gs)) := by
  refine .object fun c => ?_
  rw [lookup_filter (fun n => !e.hidden.contains n), lookup_filter (fun n => !e.hidden.contains n)]
  cases hc : e.hidden.contains c with
  | true => exact .none
  | false =>
    apply h
    intro hmem
    rw [FieldSet.contains_iff.mpr hmem] at hc
    cases hc

/-- Rows that agree in all that is not hidden are alike without it. -/
theorem AgreeOn.project_alike {e : Entity} {a b : Json} (h : AgreeOn (· ∉ e.hidden) a b) :
    (e.project a).Alike (e.project b) := by
  cases h with
  | object h => exact project_object_alike h
  | alike h =>
    cases h with
    | refl => exact .refl _
    -- The projection leaves an array as it is.
    | array h => exact .array h
    | object h => exact project_object_alike fun c _ => h c

end Json

end Sift

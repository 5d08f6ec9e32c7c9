import Mathlib.Data.List.Forall2
import Sift.Proofs.Row.Preorder

/-!
# Sorting rows

`IsStableSort` says what the stable sort of a list is, without saying how it is made: the same
items, none before a smaller one, and items that tie in the order they had. There is exactly one
such list, and `sortRows` finds it (`isStableSort_iff`).

Of rows that do not tie the sort does not even depend on the order they had
(`Untied.sortRows_eq_of_perm`). A row always comes before another if it is smaller, and only then
(`sortsBefore_iff`).

Sorting looks at rows only through their comparison. So it takes two lists that agree row by row,
as far as the comparison can tell, to lists that agree row by row (`forall₂_sortRows`).
-/

namespace Sift

open Std List

variable {α : Type} {cmp : α → α → Ordering}

/-- `sorted` is the stable sort of `items`. -/
structure IsStableSort (cmp : α → α → Ordering) (items sorted : List α) : Prop where
  perm : sorted.Perm items
  ordered : sorted.Pairwise fun a b => cmp a b ≠ .gt
  /-- Of the items that tie with any `a`, the order is kept. -/
  ties : ∀ a, sorted.filter (cmp a · == .eq) = items.filter (cmp a · == .eq)

/-! ## There is only one -/

/-- The heads of two ordered lists of the same items tie. -/
theorem compare_heads_eq [TransCmp cmp] {a b : α} {s t : List α}
    (hs : (a :: s).Pairwise fun x y => cmp x y ≠ .gt)
    (ht : (b :: t).Pairwise fun x y => cmp x y ≠ .gt) (hp : (a :: s).Perm (b :: t)) :
    cmp a b = .eq := by
  have hab : cmp a b ≠ .gt := by
    rcases mem_cons.mp (hp.mem_iff.mpr (mem_cons_self ..)) with rfl | hb
    · have hself : cmp b b = .eq := ReflCmp.compare_self
      simp [hself]
    · exact (pairwise_cons.mp hs).1 b hb
  have hba : cmp b a ≠ .gt := by
    rcases mem_cons.mp (hp.mem_iff.mp (mem_cons_self ..)) with rfl | ha
    · have hself : cmp a a = .eq := ReflCmp.compare_self
      simp [hself]
    · exact (pairwise_cons.mp ht).1 a ha
  have hswap : cmp b a = (cmp a b).swap := OrientedCmp.eq_swap
  cases h : cmp a b <;> simp_all

/-- Two ordered lists of the same items are equal if ties stand in the same order. -/
theorem eq_of_ordered_of_ties [TransCmp cmp] {s t : List α}
    (hs : s.Pairwise fun x y => cmp x y ≠ .gt) (ht : t.Pairwise fun x y => cmp x y ≠ .gt)
    (hp : s.Perm t) (hties : ∀ a, s.filter (cmp a · == .eq) = t.filter (cmp a · == .eq)) :
    s = t := by
  induction s generalizing t with
  | nil => exact hp.nil_eq
  | cons a s ih =>
    cases t with
    | nil => exact hp.eq_nil
    | cons b t =>
      have hself : cmp a a = .eq := ReflCmp.compare_self
      have hab : cmp a b = .eq := compare_heads_eq hs ht hp
      -- Both heads survive the filter by ties with `a`, so they are the same item.
      have hheads := hties a
      rw [filter_cons_of_pos (by simp [hself]), filter_cons_of_pos (by simp [hab])] at hheads
      obtain ⟨rfl, -⟩ := List.cons.inj hheads
      have htails : ∀ x, s.filter (cmp x · == .eq) = t.filter (cmp x · == .eq) := by
        intro x
        have hx := hties x
        rw [filter_cons, filter_cons] at hx
        split at hx
        · exact (List.cons.inj hx).2
        · exact hx
      rw [ih (pairwise_cons.mp hs).2 (pairwise_cons.mp ht).2 hp.cons_inv htails]

/-- A list has only one stable sort: each class of ties keeps its order. -/
theorem IsStableSort.unique [TransCmp cmp] {items s t : List α} (hs : IsStableSort cmp items s)
    (ht : IsStableSort cmp items t) : s = t := by
  apply eq_of_ordered_of_ties hs.ordered ht.ordered (hs.perm.trans ht.perm.symm)
  intro a
  rw [hs.ties a, ht.ties a]

/-! ## The sort of rows -/

/-- Sorting loses no row and doubles none. -/
theorem sortRows_perm (keys : List SortKey) (rows : List Json) : (sortRows keys rows).Perm rows :=
  mergeSort_perm rows _

theorem sortRows_ordered (keys : List SortKey) (rows : List Json) :
    (sortRows keys rows).Pairwise fun a b => compareRows keys a b ≠ .gt := by
  have h := pairwise_mergeSort (rowLE_trans keys) (rowLE_total keys) rows
  exact h.imp fun hab => by simpa using hab

/-- Rows that tie with `a` keep the order they had. -/
theorem sortRows_ties (keys : List SortKey) (rows : List Json) (a : Json) :
    (sortRows keys rows).filter (compareRows keys a · == .eq)
      = rows.filter (compareRows keys a · == .eq) := by
  let tied := rows.filter (compareRows keys a · == .eq)
  -- Rows that tie are in order as they are, so a stable sort leaves their sequence as it was.
  have hordered : tied.Pairwise fun x y => rowLE keys x y = true := by
    apply Pairwise.imp_of_mem (R := fun _ _ => True) _ (pairwise_of_forall fun _ _ => trivial)
    intro x y hx hy _
    have hax : compareRows keys a x = .eq := by simpa [tied] using (mem_filter.mp hx).2
    have hay : compareRows keys a y = .eq := by simpa [tied] using (mem_filter.mp hy).2
    have hxy : compareRows keys x y = .eq :=
      TransCmp.eq_trans (OrientedCmp.eq_symm hax) hay
    simp [rowLE, hxy]
  have hsub : tied.Sublist (sortRows keys rows) :=
    sublist_mergeSort (rowLE_trans keys) (rowLE_total keys) hordered filter_sublist
  have hsub' : tied.Sublist ((sortRows keys rows).filter (compareRows keys a · == .eq)) := by
    have h := hsub.filter (compareRows keys a · == .eq)
    rwa [filter_filter, filter_congr (q := (compareRows keys a · == .eq)) (by simp)] at h
  have hlen := ((sortRows_perm keys rows).filter (compareRows keys a · == .eq)).length_eq
  exact (hsub'.eq_of_length hlen.symm).symm

/-- The rows are in order, and rows that tie stay as they were stored. -/
theorem sortRows_isStableSort (keys : List SortKey) (rows : List Json) :
    IsStableSort (compareRows keys) rows (sortRows keys rows) where
  perm := sortRows_perm keys rows
  ordered := sortRows_ordered keys rows
  ties := sortRows_ties keys rows

/-- The stable sort of rows is what `sortRows` makes, and nothing else. -/
theorem isStableSort_iff {keys : List SortKey} {rows sorted : List Json} :
    IsStableSort (compareRows keys) rows sorted ↔ sorted = sortRows keys rows := by
  constructor
  · intro h
    exact h.unique (sortRows_isStableSort keys rows)
  · rintro rfl
    exact sortRows_isStableSort keys rows

/-! ## Rows that do not tie -/

/-- Rows tie if they tie under every key. -/
theorem compareRows_eq_eq_iff {keys : List SortKey} {a b : Json} :
    compareRows keys a b = .eq ↔ ∀ k ∈ keys, k.compare a b = .eq := by
  induction keys with
  | nil => simp [compareRows_nil]
  | cons k keys ih => rw [compareRows_cons, Ordering.then_eq_eq, ih, forall_mem_cons]

/-- No two of the rows tie. -/
def Untied (keys : List SortKey) (rows : List Json) : Prop :=
  rows.Pairwise fun a b => compareRows keys a b ≠ .eq

/-- Whether any rows tie does not depend on the order they are stored in. -/
theorem Untied.perm {keys : List SortKey} {rows rows' : List Json} (h : Untied keys rows)
    (hp : rows.Perm rows') : Untied keys rows' :=
  hp.pairwise h fun hab hba => hab (OrientedCmp.eq_symm hba)

/-- Of rows that do not tie, each is smaller than those after it once they are sorted. -/
theorem Untied.sortRows_strict {keys : List SortKey} {rows : List Json} (h : Untied keys rows) :
    (sortRows keys rows).Pairwise fun a b => compareRows keys a b = .lt := by
  have huntied : Untied keys (sortRows keys rows) := h.perm (sortRows_perm keys rows).symm
  refine (sortRows_ordered keys rows).imp₂ (fun a b hle hne => ?_) huntied
  cases hab : compareRows keys a b with
  | lt => rfl
  | eq => exact absurd hab hne
  | gt => exact absurd hab hle

/-- The sort of rows that do not tie does not depend on the order they had. -/
theorem Untied.sortRows_eq_of_perm {keys : List SortKey} {rows rows' : List Json}
    (h : Untied keys rows) (hp : rows.Perm rows') : sortRows keys rows = sortRows keys rows' := by
  have hsorted : (sortRows keys rows).Perm (sortRows keys rows') :=
    (sortRows_perm keys rows).trans (hp.trans (sortRows_perm keys rows').symm)
  refine hsorted.eq_of_pairwise ?_ h.sortRows_strict (h.perm hp).sortRows_strict
  intro a b _ _ hab hba
  have hgt : compareRows keys b a = .gt := OrientedCmp.gt_of_lt hab
  rw [hgt] at hba
  cases hba

/-! ## Which of two rows comes first -/

/-- Whatever rows are sorted, `a` comes before `b`. -/
def SortsBefore (keys : List SortKey) (a b : Json) : Prop :=
  ∀ (rows : List Json) (i j : Nat), (sortRows keys rows)[i]? = some a →
    (sortRows keys rows)[j]? = some b → i < j

/-- A row that comes first whatever is sorted is smaller: of two rows that tie, the one that was
there first comes first. -/
theorem sortsBefore_iff {keys : List SortKey} {a b : Json} :
    SortsBefore keys a b ↔ compareRows keys a b = .lt := by
  constructor
  · intro h
    by_contra hcompare
    -- Were `a` not smaller, it would stay behind `b`.
    have hba : rowLE keys b a = true := by
      have hswap : compareRows keys b a = (compareRows keys a b).swap := OrientedCmp.eq_swap
      cases hab : compareRows keys a b <;> simp_all [rowLE]
    have hsorted : sortRows keys [b, a] = [b, a] :=
      mergeSort_of_pairwise (pairwise_pair.mpr hba)
    have hlt := h [b, a] 1 0 (by rw [hsorted]; rfl) (by rw [hsorted]; rfl)
    omega
  · intro h rows i j hi hj
    obtain ⟨hi', rfl⟩ := List.getElem?_eq_some_iff.mp hi
    obtain ⟨hj', rfl⟩ := List.getElem?_eq_some_iff.mp hj
    rcases Nat.lt_trichotomy i j with hij | rfl | hji
    · exact hij
    · have hself := (ReflCmp.compare_self : compareRows keys (sortRows keys rows)[i] _ = .eq)
      cases hself.symm.trans h
    · have hle := pairwise_iff_getElem.mp (sortRows_ordered keys rows) j i hj' hi' hji
      exact absurd (OrientedCmp.gt_of_lt h) hle

/-! ## Two lists at once -/

/-- Sorting two lists that are related item by item, by comparisons that cannot tell related items
apart, gives lists that are related item by item. Both sorts are images of one sort of the pairs. -/
theorem forall₂_mergeSort {β : Type} {R : α → β → Prop} {le : α → α → Bool} {le' : β → β → Bool}
    (hle : ∀ {a b a' b'}, R a b → R a' b' → le a a' = le' b b') {l : List α} {m : List β}
    (h : Forall₂ R l m) : Forall₂ R (l.mergeSort le) (m.mergeSort le') := by
  let pairs := (l.zip m).mergeSort fun x y => le x.1 y.1
  have hl : l.mergeSort le = pairs.map Prod.fst := by
    rw [map_mergeSort (s := le) fun _ _ _ _ => rfl, map_fst_zip (Nat.le_of_eq h.length_eq)]
  have hm : m.mergeSort le' = pairs.map Prod.snd := by
    rw [map_mergeSort (s := le'), map_snd_zip (Nat.le_of_eq h.length_eq.symm)]
    intro x hx y hy
    exact hle (forall₂_zip h hx) (forall₂_zip h hy)
  rw [hl, hm, forall₂_map_left_iff, forall₂_map_right_iff, forall₂_same]
  intro x hx
  exact forall₂_zip h (mem_mergeSort.mp hx)

/-- Rows that are related one by one still are after both lists are sorted. -/
theorem forall₂_sortRows {R : Json → Json → Prop} {keys : List SortKey}
    (hR : ∀ {a b a' b'}, R a b → R a' b' → compareRows keys a a' = compareRows keys b b')
    {l m : List Json} (h : Forall₂ R l m) : Forall₂ R (sortRows keys l) (sortRows keys m) := by
  apply forall₂_mergeSort _ h
  intro a b a' b' hab hab'
  rw [hR hab hab']

end Sift

import Sift.Proofs.Row.Sorting

/-!
# Rows in the order of their kinds

A column may hold anything. What a sort key tells apart before it looks any closer are the kinds of
things (`ColumnKind`): truth values, numbers, texts, arrays and objects, and last what is null or
missing; a descending key puts them the other way round (`SortDirection.kinds`). So the rows that
tie under all keys before it are compared by their kinds, if these differ
(`compareRows_of_putsBefore`).

In the sorted rows the kinds then stand one after another (`groups_infix_sortRows`). That is a fact
on lists: where nothing stands before what belongs to an earlier class, the list is made up of its
classes (`flatMap_filter_eq`). It is used twice. The rows smaller than a given one, those that tie
with it and those greater are such classes, too, so the rows that tie stand together.

Main statement: `compareRows_goes_by_kinds`.
-/

namespace Sift

open Std List

/-! ## Lists made up of classes -/

section Classes

variable {α κ : Type} {l : List α}

/-- A list in which nothing that `p` accepts stands behind anything else is what `p` accepts, then
the rest. -/
theorem filter_append_filter_not {p : α → Bool}
    (h : l.Pairwise fun a b => p b = true → p a = true) :
    l.filter p ++ l.filter (fun a => !p a) = l := by
  induction l with
  | nil => rfl
  | cons a l ih =>
    obtain ⟨ha, hl⟩ := pairwise_cons.mp h
    by_cases hp : p a = true
    · rw [filter_cons_of_pos hp, filter_cons_of_neg (by simp [hp]), cons_append, ih hl]
    · have hnone : ∀ b ∈ l, ¬ p b = true := by
        intro b hb hpb
        exact hp (ha b hb hpb)
      have hrest : ∀ b ∈ l, (!p b) = true := by
        intro b hb
        simpa using hnone b hb
      rw [filter_cons_of_neg hp, filter_cons_of_pos (by simpa using hp),
        filter_eq_nil_iff.mpr hnone, filter_eq_self.mpr hrest, nil_append]

/-- A list in which nothing stands before what is of an earlier class is made up of its classes. -/
theorem flatMap_filter_eq [DecidableEq κ] {classOf : α → κ} {classes : List κ}
    (hnodup : classes.Nodup) (hmem : ∀ a ∈ l, classOf a ∈ classes)
    (h : l.Pairwise fun a b => ¬ [classOf b, classOf a] <+ classes) :
    (classes.flatMap fun c => l.filter (classOf · == c)) = l := by
  induction classes generalizing l with
  | nil =>
    have hnil : l = [] := by
      apply eq_nil_iff_forall_not_mem.mpr
      intro a ha
      exact not_mem_nil (hmem a ha)
    rw [hnil, flatMap_nil]
  | cons c classes ih =>
    obtain ⟨hc, hnodup⟩ := nodup_cons.mp hnodup
    have hlater : ∀ a ∈ l, classOf a ≠ c → classOf a ∈ classes := by
      intro a ha hne
      exact (mem_cons.mp (hmem a ha)).resolve_left hne
    let rest := l.filter fun a => !(classOf a == c)
    -- The first class comes first, and what is left is made up of the others.
    have hfirst : l.filter (classOf · == c) ++ rest = l := by
      apply filter_append_filter_not
      apply h.imp_of_mem
      intro a b ha _ hab hb
      by_contra hne
      rw [beq_iff_eq] at hb hne
      rw [hb] at hab
      exact hab (cons_sublist_cons.mpr (singleton_sublist.mpr (hlater a ha hne)))
    have hmem' : ∀ a ∈ rest, classOf a ∈ classes := by
      intro a ha
      obtain ⟨hal, hne⟩ := mem_filter.mp ha
      exact hlater a hal (by simpa using hne)
    have hrest : rest.Pairwise fun a b => ¬ [classOf b, classOf a] <+ classes := by
      apply (h.filter _).imp
      intro a b hab hsub
      exact hab (hsub.trans (sublist_cons_self c classes))
    have hsame : ∀ c' ∈ classes,
        rest.filter (classOf · == c') = l.filter (classOf · == c') := by
      intro c' hc'
      have hne : c' ≠ c := fun heq => hc (heq ▸ hc')
      rw [filter_filter]
      apply filter_congr
      intro a _
      by_cases ha : classOf a = c' <;> simp [ha, hne]
    calc ((c :: classes).flatMap fun c' => l.filter (classOf · == c'))
      _ = l.filter (classOf · == c)
          ++ classes.flatMap fun c' => rest.filter (classOf · == c') := by
        rw [flatMap_cons, flatMap_congr hsame]
      _ = l.filter (classOf · == c) ++ rest := by rw [ih hnodup hmem' hrest]
      _ = l := hfirst

end Classes

/-! ## Kinds -/

/-- What a sort key tells apart at first sight. -/
inductive ColumnKind where
  | truthValue
  | number
  | text
  /-- An array or an object. -/
  | container
  /-- Null, or no such column at all. -/
  | absent
  deriving DecidableEq, Repr

def ColumnKind.of : Option Json → ColumnKind
  | some (.bool _) => .truthValue
  | some (.number _) => .number
  | some (.string _) => .text
  | some (.array _) | some (.object _) => .container
  | some .null | none => .absent

def SortKey.kindOf (k : SortKey) (row : Json) : ColumnKind := .of (row.field? k.field)

namespace SortDirection

/-- The kinds in the order of the direction. -/
def kinds : SortDirection → List ColumnKind
  | .ascending => [.truthValue, .number, .text, .container, .absent]
  | .descending => [.absent, .container, .text, .number, .truthValue]

/-- A key of this direction puts the first kind before the second. -/
def PutsBefore (d : SortDirection) (x y : ColumnKind) : Prop := [x, y] <+ d.kinds

instance (d : SortDirection) (x y : ColumnKind) : Decidable (d.PutsBefore x y) :=
  inferInstanceAs (Decidable ([x, y] <+ d.kinds))

theorem nodup_kinds (d : SortDirection) : d.kinds.Nodup := by
  cases d <;> decide

/-- Every kind has its place in both directions. -/
theorem mem_kinds (d : SortDirection) (x : ColumnKind) : x ∈ d.kinds := by
  cases d <;> cases x <;> decide

theorem putsBefore_ascending_iff {x y : ColumnKind} :
    ascending.PutsBefore x y ↔ ascending.kinds.idxOf x < ascending.kinds.idxOf y := by
  cases x <;> cases y <;> decide

/-- The other direction turns the order of the kinds round. -/
theorem putsBefore_descending_iff {x y : ColumnKind} :
    descending.PutsBefore x y ↔ ascending.PutsBefore y x := by
  show [y, x].reverse <+ ascending.kinds.reverse ↔ _
  exact reverse_sublist

end SortDirection

/-- The rank of a value is the place of its kind. -/
theorem kindRank_eq_idxOf (v : Option Json) :
    kindRank v = SortDirection.ascending.kinds.idxOf (ColumnKind.of v) := by
  rcases v with _ | _ | _ | _ | _ | _ | _ <;> rfl

/-! ## Comparisons -/

/-- Values of different kinds are sorted by their kinds alone. -/
theorem compareValues_of_kindRank_lt {v w : Option Json} (h : kindRank v < kindRank w) :
    compareValues v w = .lt := by
  have hrank : compareOn kindRank v w = .lt := Nat.compare_eq_lt.mpr h
  rw [compareValues_eq, compareLex, hrank]
  rfl

/-- The same in either direction. -/
theorem orient_compareValues_of_putsBefore {d : SortDirection} {v w : Option Json}
    (h : d.PutsBefore (.of v) (.of w)) : d.orient (compareValues v w) = .lt := by
  cases d with
  | ascending =>
    rw [SortDirection.putsBefore_ascending_iff, ← kindRank_eq_idxOf, ← kindRank_eq_idxOf] at h
    exact compareValues_of_kindRank_lt h
  | descending =>
    rw [SortDirection.putsBefore_descending_iff, SortDirection.putsBefore_ascending_iff,
      ← kindRank_eq_idxOf, ← kindRank_eq_idxOf] at h
    have hgt : compareValues v w = .gt := OrientedCmp.gt_of_lt (compareValues_of_kindRank_lt h)
    rw [hgt]
    rfl

/-- Later keys break the ties that earlier ones leave. -/
theorem compareRows_append (keys keys' : List SortKey) (a b : Json) :
    compareRows (keys ++ keys') a b = (compareRows keys a b).then (compareRows keys' a b) := by
  induction keys with
  | nil => rfl
  | cons k keys ih => rw [cons_append, compareRows_cons, compareRows_cons, ih, Ordering.then_assoc]

variable {before after : List SortKey} {k : SortKey}

/-- Rows that tie under the keys before are compared by their kinds, if these differ. -/
theorem compareRows_of_putsBefore {a b : Json} (htie : compareRows before a b = .eq)
    (h : k.direction.PutsBefore (k.kindOf a) (k.kindOf b)) :
    compareRows (before ++ k :: after) a b = .lt := by
  have hkey : k.compare a b = .lt := orient_compareValues_of_putsBefore h
  rw [compareRows_append, htie, compareRows_cons, hkey]
  rfl

/-! ## Sorted rows -/

/-- Of the rows that tie with `row` under the keys `before`, those of one kind under the key `k`. -/
def kindGroup (before : List SortKey) (k : SortKey) (row : Json) (kind : ColumnKind)
    (rows : List Json) : List Json :=
  rows.filter fun r => k.kindOf r == kind && compareRows before row r == .eq

/-- What is sorted by all keys is sorted by the first of them. -/
theorem compareRows_ne_gt_of_append {a b : Json} (h : compareRows (before ++ after) a b ≠ .gt) :
    compareRows before a b ≠ .gt := by
  intro hgt
  rw [compareRows_append, hgt] at h
  exact h rfl

/-- Seen from a third item, the later of two items in order is in no earlier class: if the earlier
one ties with the third, the later one is not smaller than it. -/
theorem not_sublist_of_ne_gt {α : Type} {cmp : α → α → Ordering} [TransCmp cmp] {a b : α}
    (h : cmp a b ≠ .gt) (r : α) : ¬ [cmp r b, cmp r a] <+ [.gt, .eq, .lt] := by
  have hab : (cmp a b).isLE := Ordering.isLE_iff_ne_gt.mpr h
  -- As `a` does not come after `b`, what comes before `a` comes before `b`.
  cases hra : cmp r a with
  | lt =>
    have hrb : cmp r b = .lt := TransCmp.lt_of_lt_of_isLE hra hab
    rw [hrb]
    decide
  | eq =>
    have hrb : (cmp r b).isLE := TransCmp.isLE_trans (by rw [hra]; rfl) hab
    revert hrb
    cases cmp r b <;> decide
  | gt => cases cmp r b <;> decide

/-- The rows that tie with a given one under the first keys stand together: the smaller rows come
before them, the greater rows after them. -/
theorem ties_infix_sortRows (before after : List SortKey) (rows : List Json) (row : Json) :
    (sortRows (before ++ after) rows).filter (compareRows before row · == .eq)
      <:+: sortRows (before ++ after) rows := by
  have hordered : (sortRows (before ++ after) rows).Pairwise fun a b =>
      ¬ [compareRows before row b, compareRows before row a] <+ [.gt, .eq, .lt] := by
    apply (sortRows_ordered (before ++ after) rows).imp
    intro a b hab
    exact not_sublist_of_ne_gt (compareRows_ne_gt_of_append hab) row
  have hmem : ∀ r ∈ sortRows (before ++ after) rows,
      compareRows before row r ∈ [.gt, .eq, .lt] := by
    intro r _
    cases compareRows before row r <;> decide
  -- Before the ties come the rows that the row is greater than, and after them those it is less
  -- than.
  have hclasses := flatMap_filter_eq (by decide) hmem hordered
  refine ⟨(sortRows (before ++ after) rows).filter (compareRows before row · == .gt),
    (sortRows (before ++ after) rows).filter (compareRows before row · == .lt), ?_⟩
  simpa only [flatMap_cons, flatMap_nil, append_nil, append_assoc] using hclasses

/-- The rows that tie with a given one under the first keys are made up of kinds. -/
theorem flatMap_kindGroup_sortRows (before : List SortKey) (k : SortKey) (after : List SortKey)
    (rows : List Json) (row : Json) :
    (k.direction.kinds.flatMap fun kind =>
        kindGroup before k row kind (sortRows (before ++ k :: after) rows))
      = (sortRows (before ++ k :: after) rows).filter (compareRows before row · == .eq) := by
  let tied := (sortRows (before ++ k :: after) rows).filter (compareRows before row · == .eq)
  have hrow : ∀ r ∈ tied, compareRows before row r = .eq := by
    intro r hr
    simpa using (mem_filter.mp hr).2
  -- Among the ties of the row the next key decides, and first of all by the kinds.
  have hordered : tied.Pairwise fun a b => ¬ k.direction.PutsBefore (k.kindOf b) (k.kindOf a) := by
    apply ((sortRows_ordered _ rows).filter _).imp_of_mem
    intro a b ha hb hab hkinds
    have htie : compareRows before b a = .eq :=
      TransCmp.eq_trans (OrientedCmp.eq_symm (hrow b hb)) (hrow a ha)
    exact hab (OrientedCmp.gt_of_lt (compareRows_of_putsBefore htie hkinds))
  calc (k.direction.kinds.flatMap fun kind =>
          kindGroup before k row kind (sortRows (before ++ k :: after) rows))
    _ = k.direction.kinds.flatMap fun kind => tied.filter (k.kindOf · == kind) := by
      simp only [kindGroup, tied, filter_filter]
    _ = tied := flatMap_filter_eq k.direction.nodup_kinds
      (fun r _ => k.direction.mem_kinds (k.kindOf r)) hordered

/-- In the sorted rows the kinds stand one after another, with nothing in between. -/
theorem groups_infix_sortRows (before : List SortKey) (k : SortKey) (after : List SortKey)
    (rows : List Json) (row : Json) :
    (k.direction.kinds.flatMap fun kind =>
        kindGroup before k row kind (sortRows (before ++ k :: after) rows))
      <:+: sortRows (before ++ k :: after) rows := by
  rw [flatMap_kindGroup_sortRows]
  exact ties_infix_sortRows before (k :: after) rows row

/-! ## The order of rows -/

/-- What a sort asks of a comparison. -/
structure IsTotalPreorder {α : Type} (cmp : α → α → Ordering) : Prop where
  self : ∀ a, cmp a a = .eq
  swap : ∀ a b, cmp b a = (cmp a b).swap
  trans : ∀ a b c, cmp a b ≠ .gt → cmp b c ≠ .gt → cmp a c ≠ .gt

/-- What the library knows of a transitive comparison makes it a total preorder. -/
theorem isTotalPreorder_of_transCmp {α : Type} (cmp : α → α → Ordering) [TransCmp cmp] :
    IsTotalPreorder cmp where
  self _ := ReflCmp.compare_self
  swap _ _ := OrientedCmp.eq_swap
  trans _ _ _ hab hbc := TransCmp.le_trans hab hbc

/-- **Rows are in a total preorder in which every key goes by kinds.** Whatever the keys, a row ties
with itself, two rows taken the other way round compare the other way round, and the comparison is
transitive. Of two rows that tie under the keys before a key, the one whose kind comes first in the
direction of that key is the smaller one. And in sorted rows those that tie with a given row under
the keys before stand together, one kind after another. -/
theorem compareRows_goes_by_kinds (keys : List SortKey) :
    IsTotalPreorder (compareRows keys)
      ∧ ∀ before k after, keys = before ++ k :: after →
        (∀ a b, compareRows before a b = .eq →
          k.direction.PutsBefore (k.kindOf a) (k.kindOf b) → compareRows keys a b = .lt)
        ∧ ∀ rows row, (k.direction.kinds.flatMap fun kind =>
            kindGroup before k row kind (sortRows keys rows)) <:+: sortRows keys rows := by
  refine ⟨isTotalPreorder_of_transCmp _, ?_⟩
  rintro before k after rfl
  constructor
  · intro a b htie hkinds
    exact compareRows_of_putsBefore htie hkinds
  · intro rows row
    exact groups_infix_sortRows before k after rows row

/-! ### Ages of all kinds -/

namespace Sample

/-- The hall that a guest is in and what there is about the age. -/
def answers : Nat → Fields
  | 1 => [("hall", .string "west"), ("age", .bool true)]
  | 2 => [("hall", .string "north"), ("age", .number (.integer 7))]
  | 3 => [("hall", .string "north")]
  | 4 => [("hall", .string "north"), ("age", .array [.number (.integer 7)])]
  | 5 => [("hall", .string "east"), ("age", .object [])]
  | 6 => [("hall", .string "north"), ("age", .bool false)]
  | 7 => [("hall", .string "north"), ("age", .string "7")]
  | _ => [("hall", .string "north"), ("age", .null)]

def answering (n : Nat) : Json := .object (("id", .number (.integer n)) :: answers n)

def byHall : SortKey := ⟨"hall", .ascending⟩

def byAge : SortKey := ⟨"age", .descending⟩

def byId : SortKey := ⟨"id", .ascending⟩

/-- In the north hall those of no age come first, then an array, a text, a number and a truth
value. -/
theorem north_hall_by_kinds :
    compareRows [byHall] (answering 3) (answering 4) = .eq
      ∧ byAge.direction.PutsBefore (byAge.kindOf (answering 3)) (byAge.kindOf (answering 4))
      ∧ compareRows [byHall, byAge, byId] (answering 3) (answering 4) = .lt
      ∧ [3, 8, 4, 7, 2, 6].map answering
        <:+: sortRows [byHall, byAge, byId] ([1, 2, 3, 4, 5, 6, 7, 8].map answering) := by
  have htie : compareRows [byHall] (answering 3) (answering 4) = .eq := by decide +kernel
  have hkinds : byAge.direction.PutsBefore (byAge.kindOf (answering 3))
      (byAge.kindOf (answering 4)) := by decide +kernel
  obtain ⟨-, hkey⟩ := compareRows_goes_by_kinds [byHall, byAge, byId]
  obtain ⟨hless, hgroups⟩ := hkey [byHall] byAge [byId] rfl
  have hsorted : sortRows [byHall, byAge, byId] ([1, 2, 3, 4, 5, 6, 7, 8].map answering)
      = [5, 3, 8, 4, 7, 2, 6, 1].map answering := by
    have huntied : Untied [byHall, byAge, byId] ([1, 2, 3, 4, 5, 6, 7, 8].map answering) := by
      unfold Untied
      decide +kernel
    have hperm : [1, 2, 3, 4, 5, 6, 7, 8].Perm [5, 3, 8, 4, 7, 2, 6, 1] := by decide
    rw [huntied.sortRows_eq_of_perm (hperm.map answering)]
    exact mergeSort_of_pairwise (by decide +kernel)
  refine ⟨htie, hkinds, hless _ _ htie hkinds, ?_⟩
  have hnorth := hgroups ([1, 2, 3, 4, 5, 6, 7, 8].map answering) (answering 3)
  rw [hsorted] at hnorth ⊢
  exact hnorth

end Sample

end Sift

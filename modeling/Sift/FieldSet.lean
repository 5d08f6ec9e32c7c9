/-!
# Sets of column names

A `FieldSet` lists its names in strictly ascending order of their code points, so that two sets
with the same names are equal.

Main statements: `mem_insert`, `mem_erase` and `mem_insertAll`, what each operation does to
membership.
-/

namespace Sift

/-- A set of column names, listed in strictly ascending order. -/
structure FieldSet where
  toList : List String
  ascending : toList.Pairwise (· < ·)
  deriving DecidableEq

namespace FieldSet

/-- Puts `x` in its place in an ascending list, unless it is there already. -/
def place (x : String) : List String → List String
  | [] => [x]
  | y :: ys => if x < y then x :: y :: ys else if x = y then y :: ys else y :: place x ys

/-- Placing a name adds it to the list and nothing else. -/
theorem mem_place {x z : String} {l : List String} : z ∈ place x l ↔ z = x ∨ z ∈ l := by
  induction l with
  | nil => simp [place]
  | cons y ys ih =>
    simp only [place]
    split
    · simp
    · split
      · next h => subst h; simp
      · simp only [List.mem_cons, ih]
        exact ⟨fun h => by rcases h with h | h | h <;> simp [h],
          fun h => by rcases h with h | h | h <;> simp [h]⟩

/-- The list stays in ascending order, without a name twice. -/
theorem pairwise_place {x : String} {l : List String} (h : l.Pairwise (· < ·)) :
    (place x l).Pairwise (· < ·) := by
  induction l with
  | nil => simp [place]
  | cons y ys ih =>
    obtain ⟨hy, hys⟩ := List.pairwise_cons.1 h
    simp only [place]
    split
    · next hxy =>
      -- The new name comes first.
      refine List.pairwise_cons.2 ⟨fun z hz => ?_, h⟩
      rcases List.mem_cons.1 hz with rfl | hz
      · exact hxy
      · exact String.lt_trans hxy (hy z hz)
    · split
      · exact h
      · next hxy hne =>
        refine List.pairwise_cons.2 ⟨fun z hz => ?_, ih hys⟩
        -- Neither before `y` nor equal to it, the new name comes after it.
        rcases mem_place.1 hz with rfl | hz
        · exact Decidable.byContradiction fun hlt => hne (String.le_antisymm hlt hxy)
        · exact hy z hz

def empty : FieldSet := ⟨[], .nil⟩

def insert (s : FieldSet) (x : String) : FieldSet := ⟨place x s.toList, pairwise_place s.ascending⟩

def erase (s : FieldSet) (x : String) : FieldSet :=
  ⟨s.toList.filter (· != x), s.ascending.filter _⟩

def insertAll (s : FieldSet) (xs : List String) : FieldSet := xs.foldl insert s

def ofList (xs : List String) : FieldSet := empty.insertAll xs

def contains (s : FieldSet) (x : String) : Bool := s.toList.contains x

instance : Membership String FieldSet := ⟨fun s x => x ∈ s.toList⟩

instance (x : String) (s : FieldSet) : Decidable (x ∈ s) :=
  inferInstanceAs (Decidable (x ∈ s.toList))

theorem contains_iff {s : FieldSet} {x : String} : s.contains x ↔ x ∈ s := by
  simp [contains, Membership.mem]

theorem mem_empty (x : String) : x ∉ empty := fun h => nomatch h

theorem mem_insert {s : FieldSet} {x z : String} : z ∈ s.insert x ↔ z = x ∨ z ∈ s := mem_place

theorem mem_erase {s : FieldSet} {x z : String} : z ∈ s.erase x ↔ z ∈ s ∧ z ≠ x := by
  show z ∈ s.toList.filter (· != x) ↔ z ∈ s.toList ∧ z ≠ x
  simp

/-- Inserting names one after the other adds exactly those names. -/
theorem mem_insertAll {s : FieldSet} {xs : List String} {z : String} :
    z ∈ s.insertAll xs ↔ z ∈ s ∨ z ∈ xs := by
  induction xs generalizing s with
  | nil => simp [insertAll]
  | cons x xs ih =>
    have h : s.insertAll (x :: xs) = (s.insert x).insertAll xs := rfl
    rw [h, ih, mem_insert, List.mem_cons]
    exact ⟨fun h => by rcases h with (h | h) | h <;> simp [h],
      fun h => by rcases h with h | h | h <;> simp [h]⟩

theorem mem_ofList {xs : List String} {z : String} : z ∈ ofList xs ↔ z ∈ xs := by
  rw [ofList, mem_insertAll]
  exact ⟨fun h => h.resolve_left (mem_empty z), Or.inr⟩

end FieldSet

end Sift

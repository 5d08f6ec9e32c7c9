import Sift.Entity

/-!
# Queries

A query is a plan bound to its entity, with the sort order settled: the plan's keys, else those of
the entity, and then the primary key, so that no two rows of a table with distinct keys tie.

Main statement: `primaryKey_mem_sort`.
-/

namespace Sift

structure Query where
  entity : Entity
  plan : Plan
  sort : List SortKey

namespace Query

/-- The sort keys of a plan or, if it has none, of the entity. -/
def requestedSort (e : Entity) (p : Plan) : List SortKey :=
  if p.sort.isEmpty then e.defaultSort else p.sort

/-- The same keys, with the primary key last unless it is among them. -/
def settledSort (e : Entity) (keys : List SortKey) : List SortKey :=
  if keys.any (·.field == e.primaryKey) then keys else keys ++ [⟨e.primaryKey, .ascending⟩]

def resolve (e : Entity) (p : Plan) : Query := ⟨e, p, settledSort e (requestedSort e p)⟩

/-- The sort of a query always goes by the primary key in the end. -/
theorem primaryKey_mem_sort (e : Entity) (p : Plan) :
    ∃ k ∈ (resolve e p).sort, k.field = e.primaryKey := by
  unfold resolve settledSort
  split
  · next h => simpa using h
  · exact ⟨⟨e.primaryKey, .ascending⟩, by simp, rfl⟩

end Query

structure Window where
  offset : Nat
  limit : Nat
  deriving DecidableEq, Repr

end Sift

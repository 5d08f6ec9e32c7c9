import Sift.Compile.Plan

/-!
# Searchable entities

An entity describes one searchable table: under which route it is served, which columns a document
may name, and which columns no answer ever shows. It is built from a name and a table by settings
that may come in any order; the primary key is always among the columns that may be named.

Main statements: `mem_queryable_withQueryable` and `mem_queryable_withPrimaryKey`.
-/

namespace Sift

structure Entity where
  name : String
  /-- The route segment. -/
  plural : String
  table : String
  primaryKey : String
  /-- The columns a document may name. -/
  queryable : FieldSet
  /-- The columns that are taken out of every row. -/
  hidden : FieldSet
  /-- How rows are sorted when a document does not say. -/
  defaultSort : List SortKey
  deriving DecidableEq

namespace Entity

/-- An entity over a table, with `id` as its primary key and the table's name in its route. -/
def new (name table : String) : Entity where
  name := name
  plural := table
  table := table
  primaryKey := "id"
  queryable := FieldSet.ofList ["id"]
  hidden := .empty
  defaultSort := []

def withPlural (e : Entity) (plural : String) : Entity := { e with plural }

/-- Makes `key` the primary key. The old one loses its place among the queryable columns. -/
def withPrimaryKey (e : Entity) (key : String) : Entity :=
  { e with primaryKey := key, queryable := (e.queryable.erase e.primaryKey).insert key }

def withQueryable (e : Entity) (columns : List String) : Entity :=
  { e with queryable := e.queryable.insertAll columns }

def withHidden (e : Entity) (columns : List String) : Entity :=
  { e with hidden := e.hidden.insertAll columns }

def withDefaultSort (e : Entity) (sort : List SortKey) : Entity := { e with defaultSort := sort }

/-- Compiles a document against the entity's queryable columns. -/
def compile (e : Entity) (d : Document) : Except CompileError Plan := d.compile e.queryable

/-- The row without the hidden columns. -/
def project (e : Entity) : Json → Json
  | .object fields => .object (fields.filter fun f => !e.hidden.contains f.1)
  | row => row

/-- Declaring columns only ever opens more of them. -/
theorem mem_queryable_withQueryable {e : Entity} {columns : List String} {c : String} :
    c ∈ (e.withQueryable columns).queryable ↔ c ∈ e.queryable ∨ c ∈ columns :=
  FieldSet.mem_insertAll

/-- A new primary key takes the place of the old one, also where that was declared by name. -/
theorem mem_queryable_withPrimaryKey {e : Entity} {key c : String} :
    c ∈ (e.withPrimaryKey key).queryable ↔ c = key ∨ c ∈ e.queryable ∧ c ≠ e.primaryKey := by
  simp [withPrimaryKey, FieldSet.mem_insert, FieldSet.mem_erase]

end Entity

end Sift

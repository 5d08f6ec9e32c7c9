import Sift.Config.Basic

/-!
# How entities are built

An entity comes from a name and a table by settings, any number of them in any order. A property
of new entities that no setting destroys is a property of all entities (`Entity.Built.induction`);
that the primary key may be named in a document is one of them.

Main statement: `Entity.Built.primaryKey_mem_queryable`.
-/

namespace Sift

inductive Setting where
  | plural (segment : String)
  | primaryKey (key : String)
  | queryable (columns : List String)
  | hidden (columns : List String)
  | defaultSort (sort : List SortKey)

def Setting.apply : Setting → Entity → Entity
  | .plural segment, e => e.withPlural segment
  | .primaryKey key, e => e.withPrimaryKey key
  | .queryable columns, e => e.withQueryable columns
  | .hidden columns, e => e.withHidden columns
  | .defaultSort sort, e => e.withDefaultSort sort

namespace Entity

def configure (e : Entity) (settings : List Setting) : Entity :=
  settings.foldl (fun e x => x.apply e) e

/-- The entity is one that can be built. -/
def Built (e : Entity) : Prop :=
  ∃ name table settings, e = (Entity.new name table).configure settings

/-- What no setting destroys, a list of settings does not destroy. -/
theorem configure_preserves {P : Entity → Prop} (hstep : ∀ x e, P e → P (Setting.apply x e))
    {e : Entity} (he : P e) (settings : List Setting) : P (e.configure settings) := by
  induction settings generalizing e with
  | nil => exact he
  | cons x settings ih => exact ih (hstep x e he)

namespace Built

/-- What holds of new entities and is kept by every setting holds of all that can be built. -/
theorem induction {P : Entity → Prop} (hnew : ∀ name table, P (Entity.new name table))
    (hstep : ∀ x e, P e → P (Setting.apply x e)) {e : Entity} (h : e.Built) : P e := by
  obtain ⟨name, table, settings, rfl⟩ := h
  exact configure_preserves hstep (hnew name table) settings

/-- The primary key is always among the columns that a document may name. -/
theorem primaryKey_mem_queryable {e : Entity} (h : e.Built) : e.primaryKey ∈ e.queryable := by
  apply induction (P := fun e => e.primaryKey ∈ e.queryable) _ _ h
  · intro name table
    exact FieldSet.mem_ofList.mpr (List.mem_singleton.mpr rfl)
  · intro x e he
    -- Only a new primary key changes the key, and it takes the place of the old one.
    cases x with
    | plural _ => exact he
    | primaryKey key => exact mem_queryable_withPrimaryKey.mpr (.inl rfl)
    | queryable columns => exact mem_queryable_withQueryable.mpr (.inl he)
    | hidden _ => exact he
    | defaultSort _ => exact he

end Built

end Entity

/-! ## Configured entities -/

namespace EntitySettings

/-- What a configuration describes can be built. -/
theorem built_entity (s : EntitySettings) : s.entity.Built :=
  ⟨s.name, s.tableName, [.plural s.pluralName, .primaryKey s.primaryKey, .queryable s.queryable,
    .hidden s.hidden, .defaultSort (s.defaultSort.map sortKey)], rfl⟩

theorem hidden_entity (s : EntitySettings) (c : String) : c ∈ s.entity.hidden ↔ c ∈ s.hidden := by
  show c ∈ FieldSet.empty.insertAll s.hidden ↔ _
  exact FieldSet.mem_ofList

end EntitySettings

end Sift

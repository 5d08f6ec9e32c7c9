import Mathlib.Data.List.Induction
import Mathlib.Data.List.Sort
import Sift.Proofs.Entity.Building

/-!
# Columns that settings declare

Some settings of an entity declare columns that documents may name, others choose its primary key.
What documents may name in the end should be the declared columns and the last primary key, in
whatever order the settings were made. But a new primary key takes the old one out of the queryable
columns, and by then it is not known whether the old one was declared as well. So a column is
dropped if it was declared, then replaced as the primary key, and not declared again (`Drops`).

The induction is on the list of settings from its end: one more setting drops a column or declares
it again (`drops_concat_iff`).

Main statement: `queryable_eq_declared_iff`.
-/

namespace Sift

/-- Sets with the same names are equal: they list them in the same order. -/
theorem FieldSet.ext {s t : FieldSet} (h : ∀ c, c ∈ s ↔ c ∈ t) : s = t := by
  obtain ⟨names, hs⟩ := s
  obtain ⟨names', ht⟩ := t
  obtain rfl : names = names' := hs.eq_of_mem_iff ht h
  rfl

namespace Setting

def columns : Setting → List String
  | .queryable columns => columns
  | _ => []

def key? : Setting → Option String
  | .primaryKey key => some key
  | _ => none

theorem key?_eq_some_iff {x : Setting} {key : String} :
    x.key? = some key ↔ x = .primaryKey key := by
  cases x <;> simp [key?]

/-- A setting that chooses a key declares nothing. -/
theorem columns_eq_nil {x : Setting} {key : String} (h : x.key? = some key) : x.columns = [] := by
  rw [key?_eq_some_iff.mp h]
  rfl

end Setting

def declared (settings : List Setting) : List String := settings.flatMap Setting.columns

/-- The primary key that was chosen last, or the one of new entities. -/
def finalKey (settings : List Setting) : String :=
  (settings.filterMap Setting.key?).getLast?.getD "id"

/-- The column had been declared and was the primary key when another key replaced it, and it has
not been declared again since. -/
def Drops (settings : List Setting) (c : String) : Prop :=
  ∃ before key after, settings = before ++ .primaryKey key :: after ∧ c ∈ declared before
    ∧ finalKey before = c ∧ key ≠ c ∧ c ∉ declared after

variable {settings before after : List Setting} {x : Setting} {c : String}

/-! ## One more setting -/

theorem mem_declared_append :
    c ∈ declared (before ++ after) ↔ c ∈ declared before ∨ c ∈ declared after := by
  rw [declared, List.flatMap_append, List.mem_append]
  rfl

/-- One setting more adds the columns that it declares itself. -/
theorem mem_declared_concat :
    c ∈ declared (settings ++ [x]) ↔ c ∈ declared settings ∨ c ∈ x.columns := by
  simp [declared]

/-- The last primary key that is set counts. -/
theorem finalKey_concat : finalKey (settings ++ [x]) = x.key?.getD (finalKey settings) := by
  cases h : x.key? <;> simp [finalKey, h]

/-- A further setting keeps what is dropped, unless it declares it again, and drops the column that
it replaces as the primary key, if that was declared. -/
theorem drops_concat_iff :
    Drops (settings ++ [x]) c ↔ Drops settings c ∧ c ∉ x.columns
      ∨ c ∈ declared settings ∧ finalKey settings = c ∧ ∃ key, x.key? = some key ∧ key ≠ c := by
  constructor
  · rintro ⟨before, key, after, hsplit, hdeclared, hkey, hne, hafter⟩
    -- The key that replaces the column is in the last setting or in one before it.
    rcases List.eq_nil_or_concat after with rfl | ⟨between, last, rfl⟩
    · obtain ⟨rfl, hx⟩ := List.append_inj' hsplit rfl
      obtain rfl := List.singleton_inj.mp hx
      exact .inr ⟨hdeclared, hkey, key, rfl, hne⟩
    · have hparts : settings ++ [x] = (before ++ .primaryKey key :: between) ++ [last] := by
        simpa using hsplit
      obtain ⟨rfl, hx⟩ := List.append_inj' hparts rfl
      obtain rfl := List.singleton_inj.mp hx
      rw [List.concat_eq_append, mem_declared_concat, not_or] at hafter
      exact .inl ⟨⟨before, key, between, rfl, hdeclared, hkey, hne, hafter.1⟩, hafter.2⟩
  · rintro (⟨⟨before, key, after, rfl, hdeclared, hkey, hne, hafter⟩, hx⟩
      | ⟨hdeclared, hkey, key, hx, hne⟩)
    · refine ⟨before, key, after ++ [x], by simp, hdeclared, hkey, hne, ?_⟩
      rw [mem_declared_concat, not_or]
      exact ⟨hafter, hx⟩
    · obtain rfl := Setting.key?_eq_some_iff.mp hx
      exact ⟨settings, key, [], rfl, hdeclared, hkey, hne, List.not_mem_nil⟩

theorem Drops.mem_declared (h : Drops settings c) : c ∈ declared settings := by
  obtain ⟨before, key, after, rfl, hdeclared, -⟩ := h
  exact mem_declared_append.mpr (.inl hdeclared)

/-- Nothing is dropped if all keys are chosen before the first column is declared. -/
theorem not_drops_of_keys_first (hbefore : declared before = [])
    (hafter : after.filterMap Setting.key? = []) : ¬ Drops (before ++ after) c := by
  induction after using List.reverseRecOn with
  | nil =>
    intro h
    simpa [hbefore] using h.mem_declared
  | append_singleton after x ih =>
    rw [List.filterMap_append, List.append_eq_nil_iff] at hafter
    rw [← List.append_assoc, drops_concat_iff]
    rintro (⟨h, -⟩ | ⟨-, -, key, hx, -⟩)
    · exact ih hafter.1 h
    · simp [hx] at hafter

/-! ## All settings -/

namespace Entity

variable {e : Entity} {name table : String}

theorem configure_concat (e : Entity) (settings : List Setting) (x : Setting) :
    e.configure (settings ++ [x]) = x.apply (e.configure settings) := by
  simp [configure]

theorem primaryKey_apply (e : Entity) (x : Setting) :
    (x.apply e).primaryKey = x.key?.getD e.primaryKey := by
  cases x <;> rfl

/-- A setting opens its columns and closes the key that it replaces. -/
theorem mem_queryable_apply :
    c ∈ (x.apply e).queryable ↔ c ∈ x.columns ∨ x.key? = some c
      ∨ c ∈ e.queryable ∧ (x.key? = none ∨ c ≠ e.primaryKey) := by
  cases x with
  | primaryKey key =>
    show c ∈ (e.withPrimaryKey key).queryable ↔ _
    rw [mem_queryable_withPrimaryKey]
    simp [Setting.columns, Setting.key?, eq_comm]
  | queryable columns =>
    show c ∈ (e.withQueryable columns).queryable ↔ _
    rw [mem_queryable_withQueryable]
    simp [Setting.columns, Setting.key?, or_comm]
  -- The other settings do not concern the columns.
  | plural segment =>
    show c ∈ e.queryable ↔ _
    simp [Setting.columns, Setting.key?]
  | hidden columns =>
    show c ∈ e.queryable ↔ _
    simp [Setting.columns, Setting.key?]
  | defaultSort sort =>
    show c ∈ e.queryable ↔ _
    simp [Setting.columns, Setting.key?]

/-- The key of an entity is read off its settings. -/
theorem primaryKey_configure_new :
    ((new name table).configure settings).primaryKey = finalKey settings := by
  induction settings using List.reverseRecOn with
  | nil => rfl
  | append_singleton settings x ih => rw [configure_concat, finalKey_concat, primaryKey_apply, ih]

/-- Documents may name the primary key and the declared columns that were not dropped. -/
theorem mem_queryable_configure_new :
    c ∈ ((new name table).configure settings).queryable
      ↔ c = finalKey settings ∨ c ∈ declared settings ∧ ¬ Drops settings c := by
  induction settings using List.reverseRecOn with
  | nil =>
    have hnone : c ∉ declared [] := List.not_mem_nil
    show c ∈ FieldSet.ofList ["id"] ↔ _
    simp [FieldSet.mem_ofList, finalKey, hnone]
  | append_singleton settings x ih =>
    rw [configure_concat, mem_queryable_apply, ih, primaryKey_configure_new, finalKey_concat,
      mem_declared_concat, drops_concat_iff]
    -- A setting either declares columns or replaces the key, never both.
    cases hkey : x.key? with
    | none =>
      simp only [Option.getD_none, true_or, and_true, reduceCtorEq, false_and, exists_false,
        and_false, or_false, false_or]
      tauto
    | some key =>
      rw [Setting.columns_eq_nil hkey]
      simp only [Option.getD_some, Option.some.injEq, exists_eq_left', List.not_mem_nil,
        not_false_eq_true, reduceCtorEq, false_or, or_false, and_true]
      by_cases hc : c = key
      · simp [hc]
      · have hne : key ≠ c := Ne.symm hc
        have hfinal : finalKey settings = c ↔ c = finalKey settings := eq_comm
        simp only [hc, hne, hfinal]
        tauto

end Entity

/-- **Documents may name what was declared, unless a change of the primary key drops it.** After any
settings, made in any order, the primary key is the one chosen last, and the queryable columns are
this key and the declared columns that were not dropped. So they are the declared columns and the
primary key exactly if no other column was dropped. The same settings in another order that keeps
the last primary key give the same queryable columns exactly if they drop the same columns. -/
theorem queryable_eq_declared_iff (name table : String) (settings : List Setting) :
    ((Entity.new name table).configure settings).primaryKey = finalKey settings
      ∧ (∀ c, c ∈ ((Entity.new name table).configure settings).queryable
        ↔ c = finalKey settings ∨ c ∈ declared settings ∧ ¬ Drops settings c)
      ∧ ((∀ c, c ∈ ((Entity.new name table).configure settings).queryable
          ↔ c ∈ declared settings ∨ c = finalKey settings)
        ↔ ∀ c, Drops settings c → c = finalKey settings)
      ∧ ∀ reordered, reordered.Perm settings → finalKey reordered = finalKey settings →
        (((Entity.new name table).configure reordered).queryable
            = ((Entity.new name table).configure settings).queryable
          ↔ ∀ c, c ≠ finalKey settings → (Drops reordered c ↔ Drops settings c)) := by
  refine ⟨Entity.primaryKey_configure_new, fun c => Entity.mem_queryable_configure_new, ?_, ?_⟩
  · constructor
    · intro h c hdrops
      have hmem := (h c).mpr (.inl hdrops.mem_declared)
      exact (Entity.mem_queryable_configure_new.mp hmem).resolve_right fun h => h.2 hdrops
    · intro h c
      rw [Entity.mem_queryable_configure_new]
      have hkept := h c
      tauto
  · intro reordered hperm hkey
    have hdeclared : ∀ c, c ∈ declared reordered ↔ c ∈ declared settings := fun c =>
      (hperm.flatMap_right _).mem_iff
    have hsame : ∀ c, c ∈ ((Entity.new name table).configure reordered).queryable
        ↔ c = finalKey settings ∨ c ∈ declared settings ∧ ¬ Drops reordered c := fun c => by
      rw [Entity.mem_queryable_configure_new, hkey, hdeclared]
    constructor
    · intro heq c hc
      -- What is dropped was declared, so the two sets tell which columns those are.
      have hmem : c = finalKey settings ∨ c ∈ declared settings ∧ ¬ Drops reordered c
          ↔ c = finalKey settings ∨ c ∈ declared settings ∧ ¬ Drops settings c := by
        rw [← hsame, heq, Entity.mem_queryable_configure_new]
      have hreordered : Drops reordered c → c ∈ declared settings := fun h =>
        (hdeclared c).mp h.mem_declared
      have hsettings : Drops settings c → c ∈ declared settings := Drops.mem_declared
      tauto
    · intro h
      apply FieldSet.ext
      intro c
      rw [hsame, Entity.mem_queryable_configure_new]
      have hboth := h c
      tauto

/-! ### A primary key that comes too late -/

namespace Sample

/-- The column `id`, which is declared, is the primary key until the second setting. -/
def keyedLate : List Setting := [.queryable ["id", "name"], .primaryKey "uid"]

/-- A declared column cannot be named, although it can be if the settings are made in the opposite
order. -/
theorem id_dropped :
    "id" ∈ declared keyedLate
      ∧ "id" ∉ ((Entity.new "user" "users").configure keyedLate).queryable
      ∧ "id" ∈ ((Entity.new "user" "users").configure keyedLate.reverse).queryable
      ∧ ¬ ∀ name table settings c, c ∈ ((Entity.new name table).configure settings).queryable
        ↔ c ∈ declared settings ∨ c = finalKey settings := by
  have hdeclared : "id" ∈ declared keyedLate := by decide +kernel
  have hnot : "id" ∉ ((Entity.new "user" "users").configure keyedLate).queryable := by
    decide +kernel
  refine ⟨hdeclared, hnot, by decide +kernel, fun h => hnot ?_⟩
  exact (h "user" "users" keyedLate "id").mpr (.inl hdeclared)

def chosenKeys : List Setting := [.primaryKey "key", .primaryKey "uid"]

/-- The columns that were the primary key before are declared. -/
def openColumns : List Setting := [.queryable ["id", "key"], .plural "people", .queryable ["name"]]

/-- With the keys first, the order of the other settings does not matter. -/
theorem keys_first_kept :
    (chosenKeys ++ openColumns.reverse).Perm (chosenKeys ++ openColumns)
      ∧ finalKey (chosenKeys ++ openColumns.reverse) = finalKey (chosenKeys ++ openColumns)
      ∧ ((Entity.new "user" "users").configure (chosenKeys ++ openColumns.reverse)).queryable
        = ((Entity.new "user" "users").configure (chosenKeys ++ openColumns)).queryable
      ∧ ∀ c, c ∈ ((Entity.new "user" "users").configure (chosenKeys ++ openColumns)).queryable
        ↔ c ∈ ["id", "key", "name"] ∨ c = "uid" := by
  have hperm : (chosenKeys ++ openColumns.reverse).Perm (chosenKeys ++ openColumns) :=
    (List.reverse_perm openColumns).append_left chosenKeys
  obtain ⟨-, -, hdeclared, horder⟩ :=
    queryable_eq_declared_iff "user" "users" (chosenKeys ++ openColumns)
  have hkept : ∀ c, ¬ Drops (chosenKeys ++ openColumns) c := fun _ =>
    not_drops_of_keys_first rfl rfl
  have hkept' : ∀ c, ¬ Drops (chosenKeys ++ openColumns.reverse) c := fun _ =>
    not_drops_of_keys_first rfl rfl
  refine ⟨hperm, rfl, (horder _ hperm rfl).mpr fun c _ => ?_, ?_⟩
  · exact iff_of_false (hkept' c) (hkept c)
  · exact hdeclared.mpr fun c hdrops => absurd hdrops (hkept c)

end Sample

end Sift

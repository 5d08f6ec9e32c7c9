import Sift.Config.Validation
import Sift.Proofs.Compile.Columns
import Sift.Proofs.Entity.Building

/-!
# Naming hidden columns

Whether a document may name a column is decided by the allow-list alone, and nothing keeps a column
from being both in the allow-list and hidden: neither the settings of an entity nor the validation
of a configuration. An entity rejects all documents that name a hidden column exactly if it has no
such column. If it has one, every clause of a document can name it, although no answer shows it
(`exists_compile_named`).

Main statements: `hidden_rejected_iff_disjoint` and, for what a configuration describes,
`disjoint_entity_iff`.
-/

namespace Sift

/-- A document that names a column in one clause, and nothing else. -/
def Clause.probe (column : String) : Clause → Document
  | .compare => { Document.empty with conditions := [⟨column, some "like", .string "x"⟩] }
  | .date => { Document.empty with dates := [⟨column, some "like", .string "x"⟩] }
  | .isNull => { Document.empty with nulls := [column] }
  | .notNull => { Document.empty with notNulls := [column] }
  | .between => { Document.empty with between := [[(column, .null)]] }
  | .order => { Document.empty with order := [⟨column, none⟩] }

/-- For each clause, there is a document that names the column in it. -/
theorem mem_named_probe (c : String) (clause : Clause) : c ∈ (clause.probe c).named clause := by
  cases clause <;> exact List.mem_singleton.mpr rfl

/-- Every column of the allow-list can be named, in every clause. -/
theorem compile_probe {allowed : FieldSet} {c : String} (hc : c ∈ allowed) (clause : Clause) :
    ∃ p, (clause.probe c).compile allowed = .ok p := by
  have hlike (cl : Clause) (v : Json) : Compile.operator cl ⟨c, some "like", v⟩ = .ok .like :=
    operator_eq_ok_iff.mpr (show Operator.ofText? "like" = some .like by decide)
  -- One entry compiles, and all other clauses are empty.
  suffices h : ∃ x, CompilesTo allowed (clause.probe c) x by
    obtain ⟨x, hx⟩ := h
    exact ⟨x.plan, compile_eq_ok_iff.mpr ⟨x, hx, rfl⟩⟩
  cases clause with
  | compare =>
    have hentry : Compile.comparison allowed ⟨c, some "like", .string "x"⟩
        = .ok (.predicate ⟨c, .like, .text "%x%"⟩) :=
      Compile.comparison_eq_ok_iff.mpr ⟨hc, .like, hlike .., rfl⟩
    exact ⟨⟨_, [], [], [], [], []⟩, ⟨.cons hentry .nil, .nil, .nil, .nil, .nil, .nil⟩⟩
  | date =>
    have hentry : Compile.datePredicate allowed ⟨c, some "like", .string "x"⟩
        = .ok ⟨c, .like, .pattern "%x%"⟩ :=
      Compile.datePredicate_eq_ok_iff.mpr ⟨hc, .like, .pattern "%x%", hlike .., rfl, rfl⟩
    exact ⟨⟨[], [], [], _, [], []⟩, ⟨.nil, .nil, .nil, .cons hentry .nil, .nil, .nil⟩⟩
  | isNull =>
    have hentry : Compile.nullCheck allowed .isNull true c = .ok ⟨c, true⟩ :=
      Compile.nullCheck_eq_ok_iff.mpr ⟨hc, rfl⟩
    exact ⟨⟨[], _, [], [], [], []⟩, ⟨.nil, .cons hentry .nil, .nil, .nil, .nil, .nil⟩⟩
  | notNull =>
    have hentry : Compile.nullCheck allowed .notNull false c = .ok ⟨c, false⟩ :=
      Compile.nullCheck_eq_ok_iff.mpr ⟨hc, rfl⟩
    exact ⟨⟨[], [], _, [], [], []⟩, ⟨.nil, .nil, .cons hentry .nil, .nil, .nil, .nil⟩⟩
  | between =>
    have hentry := Compile.bounded_eq_ok_iff (b := (c, .null)).mpr ⟨hc, rfl⟩
    exact ⟨⟨[], [], [], [], _, []⟩, ⟨.nil, .nil, .nil, .nil, .cons hentry .nil, .nil⟩⟩
  | order =>
    have hentry := Compile.sortKey_eq_ok_iff (e := ⟨c, none⟩).mpr ⟨hc, rfl⟩
    exact ⟨⟨[], [], [], [], [], _⟩, ⟨.nil, .nil, .nil, .nil, .nil, .cons hentry .nil⟩⟩

/-- A hidden column of the allow-list can be named in every clause, and the plan mentions it. -/
theorem exists_compile_named {e : Entity} {c : String} (hc : c ∈ e.queryable) (clause : Clause) :
    ∃ d p, c ∈ d.named clause ∧ e.compile d = .ok p ∧ c ∈ p.columns := by
  obtain ⟨p, hp⟩ := compile_probe hc clause
  have hnamed := mem_named_probe c clause
  exact ⟨clause.probe c, p, hnamed, hp, (mem_columns_iff_of_compile hp c).mpr ⟨clause, hnamed⟩⟩

/-- What does not compile is rejected. -/
theorem exists_error_of_not_ok {ε α : Type} {x : Except ε α} (h : ∀ a, x ≠ .ok a) :
    ∃ err, x = .error err := by
  cases x with
  | error err => exact ⟨err, rfl⟩
  | ok a => exact absurd rfl (h a)

/-- **Hidden columns are rejected exactly if none is in the allow-list.** That all documents that
name a hidden column are rejected, that no plan mentions one, and that no hidden column is in the
allow-list are one condition on an entity. Where it fails, each clause of a document can name the
column at fault, and the plan then mentions it. -/
theorem hidden_rejected_iff_disjoint (e : Entity) :
    ((∀ d, (∃ clause, ∃ c ∈ d.named clause, c ∈ e.hidden) → ∃ err, e.compile d = .error err)
        ↔ ∀ c ∈ e.hidden, c ∉ e.queryable)
      ∧ ((∀ d p, e.compile d = .ok p → ∀ c ∈ p.columns, c ∉ e.hidden)
        ↔ ∀ c ∈ e.hidden, c ∉ e.queryable)
      ∧ ∀ c ∈ e.hidden, c ∈ e.queryable → ∀ clause, ∃ d p, c ∈ d.named clause
        ∧ e.compile d = .ok p ∧ c ∈ p.columns := by
  refine ⟨⟨?_, ?_⟩, ⟨?_, ?_⟩, ?_⟩
  · intro hreject c hc hallowed
    -- Any clause would do to name the column in a document that compiles.
    obtain ⟨d, p, hnamed, hp, -⟩ := exists_compile_named hallowed .isNull
    obtain ⟨err, herr⟩ := hreject d ⟨.isNull, c, hnamed, hc⟩
    rw [hp] at herr
    cases herr
  · rintro hdisjoint d ⟨clause, c, hnamed, hc⟩
    apply exists_error_of_not_ok
    intro p hp
    exact hdisjoint c hc (mem_allowed_of_compile hp hnamed)
  · intro hplan c hc hallowed
    obtain ⟨d, p, -, hp, hmem⟩ := exists_compile_named hallowed .isNull
    exact hplan d p hp c hmem hc
  · intro hdisjoint d p hp c hmem hc
    obtain ⟨clause, hnamed⟩ := (mem_columns_iff_of_compile hp c).mp hmem
    exact hdisjoint c hc (mem_allowed_of_compile hp hnamed)
  · intro c _ hallowed clause
    exact exists_compile_named hallowed clause

/-- The condition on the entity that a configuration describes. -/
theorem disjoint_entity_iff (s : EntitySettings) :
    (∀ c ∈ s.entity.hidden, c ∉ s.entity.queryable)
      ↔ s.primaryKey ∉ s.hidden ∧ ∀ c ∈ s.hidden, c ∉ s.queryable := by
  simp only [EntitySettings.hidden_entity, EntitySettings.queryable_entity, not_or]
  constructor
  · intro h
    exact ⟨fun hkey => (h _ hkey).1 rfl, fun c hc => (h c hc).2⟩
  · rintro ⟨hkey, h⟩ c hc
    refine ⟨?_, h c hc⟩
    rintro rfl
    exact hkey hc

/-! ### A password that may be named -/

namespace Sample

/-- Users whose password is hidden but also in the allow-list. -/
def exposed : EntitySettings where
  name := "user"
  plural := none
  table := none
  primaryKey := "id"
  queryable := ["name", "password"]
  hidden := ["password"]
  defaultSort := []

def exposing : Config := { Config.standard with entities := [exposed] }

def guess : Document :=
  { Document.empty with conditions := [⟨"password", some "like", .string "s3"⟩] }

/-- A valid configuration whose entity compiles a document that names its hidden column. -/
theorem guess_compiles :
    exposing.validate = .ok () ∧ exposed.entity ∈ exposing.descriptors ∧ exposed.entity.Built
      ∧ "password" ∈ exposed.entity.hidden ∧ "password" ∈ guess.named .compare
      ∧ exposed.entity.compile guess
        = .ok { Plan.empty with predicates := [⟨"password", .like, .text "%s3%"⟩] }
      ∧ ¬ ∀ e : Entity, e.Built → ∀ d, (∃ clause, ∃ c ∈ d.named clause, c ∈ e.hidden) →
        ∃ err, e.compile d = .error err := by
  have hbuilt := exposed.built_entity
  have hhidden : "password" ∈ exposed.entity.hidden := by decide +kernel
  have hnamed : "password" ∈ guess.named .compare := by decide +kernel
  have hcompile : exposed.entity.compile guess
      = .ok { Plan.empty with predicates := [⟨"password", .like, .text "%s3%"⟩] } := by
    decide +kernel
  refine ⟨by decide +kernel, List.mem_singleton.mpr rfl, hbuilt, hhidden, hnamed, hcompile, ?_⟩
  intro hreject
  obtain ⟨err, herr⟩ := hreject _ hbuilt guess ⟨.compare, "password", hnamed, hhidden⟩
  rw [hcompile] at herr
  cases herr

end Sample

end Sift

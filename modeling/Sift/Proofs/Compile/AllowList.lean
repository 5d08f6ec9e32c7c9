import Sift.Proofs.Compile.Composition

/-!
# The allow-list is a gate

A document has one plan, whatever the allow-list; the allow-list only says whether the document is
let through. Let one allow-list be part of another. An entry whose column is in the narrow one has
the same fault under both or none (`fault?_eq_of_mem`), and any other is rejected for its column
under the narrow one. As the first faulty entry decides about a document, the two outcomes are the
same, unless the narrow allow-list stops the document at a column that only the wide one has.

Main statement: `compile_eq_or_gated`.
-/

namespace Sift

variable {narrow wide allowed : FieldSet} {d : Document} {p : Plan} {x : CompiledEntries}

/-! ## Single entries -/

namespace Entry

variable {e : Entry} {err : CompileError}

/-- Once the column of an entry is allowed, the allow-list has no part in what is wrong with it. -/
theorem Fault.of_mem (h : e.Fault narrow err) (hnarrow : e.field ∈ narrow)
    (hwide : e.field ∈ wide) : e.Fault wide err := by
  cases h with
  | field hfield => exact absurd hnarrow hfield
  | operator _ hc hraw hno => exact .operator hwide hc hraw hno
  | value _ hop hfault => exact .value hwide hop hfault
  | day _ hop hfault => exact .day hwide hop hfault

/-- A column that is not allowed is found before anything else in its entry. -/
theorem fault?_of_not_mem (h : e.field ∉ allowed) :
    e.fault? allowed = some (.unknownField e.clause e.field) :=
  fault?_eq_some_iff.mpr (.field h)

/-- Once its column is allowed, an entry does not depend on the allow-list. -/
theorem fault?_eq_of_mem (hnarrow : e.field ∈ narrow) (hwide : e.field ∈ wide) :
    e.fault? narrow = e.fault? wide := by
  ext err
  rw [fault?_eq_some_iff, fault?_eq_some_iff]
  exact ⟨fun h => h.of_mem hnarrow hwide, fun h => h.of_mem hwide hnarrow⟩

theorem fault?_eq_none_of_subset (hsub : ∀ c ∈ narrow, c ∈ wide) (h : e.fault? narrow = none) :
    e.fault? wide = none := by
  have hmem : e.field ∈ narrow := (fault?_eq_none_iff.mp h).1
  rw [← h, fault?_eq_of_mem hmem (hsub _ hmem)]

end Entry

/-! ## Whole documents -/

/-- What the entries of a document become does not depend on the allow-list. -/
theorem CompilesTo.of_named (h : CompilesTo wide d x)
    (hnamed : ∀ clause, ∀ c ∈ d.named clause, c ∈ narrow) : CompilesTo narrow d x :=
  compilesTo_iff_transcribes.mpr ⟨hnamed, (compilesTo_iff_transcribes.mp h).2⟩

/-- A document that compiles still does, to the same plan, when more columns are allowed. -/
theorem compile_of_subset (hsub : ∀ c ∈ narrow, c ∈ wide) (h : d.compile narrow = .ok p) :
    d.compile wide = .ok p := by
  obtain ⟨x, hx, rfl⟩ := compile_eq_ok_iff.mp h
  exact compile_eq_ok_iff.mpr ⟨x, hx.of_named fun _ _ hc => hsub _ (hx.mem_allowed hc), rfl⟩

/-- A plan all of whose columns are allowed is the plan under that allow-list, too. -/
theorem compile_of_columns (h : d.compile wide = .ok p) (hcolumns : ∀ c ∈ p.columns, c ∈ narrow) :
    d.compile narrow = .ok p := by
  obtain ⟨x, hx, rfl⟩ := compile_eq_ok_iff.mp h
  refine compile_eq_ok_iff.mpr ⟨x, hx.of_named fun clause c hc => ?_, rfl⟩
  exact hcolumns c ((hx.mem_columns_iff c).mpr ⟨clause, hc⟩)

/-- A plan names allowed columns only. -/
theorem columns_subset_of_compile (h : d.compile allowed = .ok p) :
    ∀ c ∈ p.columns, c ∈ allowed := by
  intro c hc
  obtain ⟨clause, hclause⟩ := (mem_columns_iff_of_compile h c).mp hc
  exact mem_allowed_of_compile h hclause

/-- The narrow allow-list stops a document at this entry: it lets all entries before it through, and
the column of this one is only in the wide one. -/
structure Document.StoppedAt (d : Document) (narrow wide : FieldSet) (e : Entry) : Prop where
  first : ∃ before after, d.inOrder = before ++ e :: after ∧ ∀ x ∈ before, x.Valid narrow
  mem : e.field ∈ wide
  not_mem : e.field ∉ narrow

/-- **The allow-list only gates, it never shapes the plan.** Let one allow-list be part of another.
A document has a plan under the narrow one exactly if it has this plan under the wide one and the
plan only mentions columns of the narrow one. The outcome is the same under both, be it a plan or an
error, unless an entry before any other fault names a column that only the wide one has; then the
error under the narrow one is that this column is unknown. -/
theorem compile_eq_or_gated (hsub : ∀ c ∈ narrow, c ∈ wide) (d : Document) :
    (∀ p, d.compile narrow = .ok p
        ↔ d.compile wide = .ok p ∧ ∀ c ∈ p.columns, c ∈ narrow)
      ∧ (d.compile narrow = d.compile wide ∨ ∃ e, d.StoppedAt narrow wide e
          ∧ d.compile narrow = .error (.unknownField e.clause e.field))
      ∧ ∀ p err, d.compile wide = .ok p → d.compile narrow = .error err →
          ∃ clause field, field ∈ wide ∧ field ∉ narrow ∧ err = .unknownField clause field := by
  have hgated : d.compile narrow = d.compile wide ∨ ∃ e, d.StoppedAt narrow wide e
      ∧ d.compile narrow = .error (.unknownField e.clause e.field) := by
    cases hnarrow : d.compile narrow with
    | ok p => exact .inl (compile_of_subset hsub hnarrow).symm
    | error err =>
      rw [← errorOf?_eq_some_iff, errorOf?_compile, List.findSome?_eq_some_iff] at hnarrow
      obtain ⟨before, e, after, hd, hfault, hbefore⟩ := hnarrow
      -- What the wide allow-list says of this entry is its answer, as no entry before is at fault.
      have hwide (h : e.fault? wide = some err) : d.compile wide = .error err := by
        rw [← errorOf?_eq_some_iff, errorOf?_compile, List.findSome?_eq_some_iff]
        exact ⟨before, e, after, hd, h,
          fun x hx => Entry.fault?_eq_none_of_subset hsub (hbefore x hx)⟩
      by_cases hmem : e.field ∈ narrow
      · rw [Entry.fault?_eq_of_mem hmem (hsub _ hmem)] at hfault
        exact .inl (hwide hfault).symm
      · obtain rfl := Option.some.inj ((Entry.fault?_of_not_mem hmem).symm.trans hfault)
        by_cases hmem' : e.field ∈ wide
        · refine .inr ⟨e, ⟨⟨before, after, hd, ?_⟩, hmem', hmem⟩, rfl⟩
          exact fun x hx => Entry.fault?_eq_none_iff.mp (hbefore x hx)
        · exact .inl (hwide (Entry.fault?_of_not_mem hmem')).symm
  refine ⟨?_, hgated, ?_⟩
  · intro p
    constructor
    · intro h
      exact ⟨compile_of_subset hsub h, columns_subset_of_compile h⟩
    · rintro ⟨h, hcolumns⟩
      exact compile_of_columns h hcolumns
  · intro p err hp herr
    rcases hgated with hsame | ⟨e, hstopped, hunknown⟩
    · rw [hp, herr] at hsame
      cases hsame
    · exact ⟨e.clause, e.field, hstopped.mem, hstopped.not_mem,
        Except.error.inj (herr.symm.trans hunknown)⟩

/-! ### Guests whose stay is nobody's business -/

namespace Sample

/-- The columns of a guest but for the days of arrival and departure. -/
def undatedColumns : FieldSet := .ofList ["id", "name", "age"]

/-- A search by name and age has the same plan under both allow-lists. A search that also asks for
the day of arrival is stopped, not at that column but at the first one that is missing. -/
theorem adults_stopped :
    (∀ c ∈ undatedColumns, c ∈ guests.queryable)
      ∧ young.compile undatedColumns = .ok youngPlan
      ∧ (¬ ∃ p, adults.compile undatedColumns = .ok p)
      ∧ ∃ e, adults.StoppedAt undatedColumns guests.queryable e ∧ e.field = "left" := by
  have hsub : ∀ c ∈ undatedColumns, c ∈ guests.queryable := by decide +kernel
  have hwide : adults.compile guests.queryable = .ok adultsPlan := by decide +kernel
  have hnarrow : adults.compile undatedColumns = .error (.unknownField .isNull "left") := by
    decide +kernel
  obtain ⟨hiff, -⟩ := compile_eq_or_gated hsub young
  obtain ⟨-, hgated, -⟩ := compile_eq_or_gated hsub adults
  refine ⟨hsub, (hiff youngPlan).mpr ⟨by decide +kernel, by decide +kernel⟩, ?_, ?_⟩
  · rintro ⟨p, hp⟩
    cases hnarrow.symm.trans hp
  · rcases hgated with hsame | ⟨e, hstopped, hunknown⟩
    · cases hnarrow.symm.trans (hsame.trans hwide)
    · have herr := Except.error.inj (hnarrow.symm.trans hunknown)
      exact ⟨e, hstopped, (CompileError.unknownField.inj herr).2.symm⟩

end Sample

end Sift

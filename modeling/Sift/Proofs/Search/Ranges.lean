import Sift.Proofs.Compile.Single

/-!
# A range and its two comparisons

A row can be asked to lie between two bounds in two ways: by a range, or by one comparison with each
bound. The two are compiled from different clauses into different parts of a plan, and a backend
evaluates them apart from one another. They select the same rows nevertheless, whatever the bounds
are and whatever the rows hold, so that every search gives the same pages.

All this is said of a document without any other range. With one, a row need only lie in either
range, but it has to pass all comparisons.

Main statement: `execute_range_eq_comparisons`.
-/

namespace Sift

variable {e : Entity} {d d' : Document} {p : Plan} {field : String} {l u : Json}
  {low high : Scalar} {atLeast atMost : Condition} {row : Json}

/-- A row lies between two bounds if it passes one comparison with each. -/
theorem liesBetween_iff_holds (hl : l.IsOperand low) (hu : u.IsOperand high)
    (hatLeast : atLeast.Asks field .greaterOrEqual l)
    (hatMost : atMost.Asks field .lessOrEqual u) :
    LiesBetween row field low high ↔ atLeast.Holds row ∧ atMost.Holds row :=
  and_congr (hatLeast.holds_iff hl).symm (hatMost.holds_iff hu).symm

/-- With a range added, however it is put in, a document selects those of its rows that lie between
the bounds. -/
theorem exists_compile_range (hp : e.compile d = .ok p)
    (hno : ∀ b ∈ d.bounds, ¬ b.2.BoundsRange) (hfield : field ∈ e.queryable)
    (hpair : IsPair (.array [l, u]) low high) (hd' : (d ++ .ranging field l u).Rearranges d') :
    ∃ p', e.compile d' = .ok p' ∧ p'.sort = p.sort
      ∧ (p.largePattern? = none → p'.largePattern? = none)
      ∧ ∀ row, (Query.resolve e p').selects row = true
        ↔ (Query.resolve e p).selects row = true ∧ LiesBetween row field low high := by
  obtain ⟨p₁, hp₁⟩ := exists_compile_append_iff.mpr
    ⟨⟨p, hp⟩, Entity.exists_compile_ranging hfield l u⟩
  obtain ⟨p', hp', hsort, hbuilt, hselects⟩ := hd'.exists_compile hp₁
  refine ⟨p', hp', ?_, ?_, ?_⟩
  · rw [hsort, sort_of_compile hp₁, sort_of_compile hp, Document.append_ranging]
  · rwa [largePattern?_append_ranging hp hp₁] at hbuilt
  · intro row
    rw [hselects, selects_eq_true_iff hp₁, selects_eq_true_iff hp,
      Document.admits_append_ranging_iff hno hpair]

/-- The same with the two comparisons, whatever other ranges the document has. -/
theorem exists_compile_comparisons (hp : e.compile d = .ok p) (hfield : field ∈ e.queryable)
    (hl : l.IsOperand low) (hu : u.IsOperand high)
    (hatLeast : atLeast.Asks field .greaterOrEqual l)
    (hatMost : atMost.Asks field .lessOrEqual u)
    (hd' : (d ++ .comparing atLeast ++ .comparing atMost).Rearranges d') :
    ∃ p', e.compile d' = .ok p' ∧ p'.sort = p.sort
      ∧ (p.largePattern? = none → p'.largePattern? = none)
      ∧ ∀ row, (Query.resolve e p').selects row = true
        ↔ (Query.resolve e p).selects row = true ∧ LiesBetween row field low high := by
  -- One comparison is added after the other.
  obtain ⟨p₁, hp₁⟩ := exists_compile_append_iff.mpr
    ⟨⟨p, hp⟩, Entity.exists_compile_comparing hfield hatLeast hl⟩
  obtain ⟨p₂, hp₂⟩ := exists_compile_append_iff.mpr
    ⟨⟨p₁, hp₁⟩, Entity.exists_compile_comparing hfield hatMost hu⟩
  obtain ⟨p', hp', hsort, hbuilt, hselects⟩ := hd'.exists_compile hp₂
  refine ⟨p', hp', ?_, ?_, ?_⟩
  · rw [hsort, sort_of_compile hp₂, sort_of_compile hp, Document.append_comparing,
      Document.append_comparing]
  · rwa [largePattern?_append_comparing hp₁ hp₂ hatMost,
      largePattern?_append_comparing hp hp₁ hatLeast] at hbuilt
  · intro row
    rw [hselects, selects_eq_true_iff hp₂, selects_eq_true_iff hp,
      Document.admits_append_comparing_iff, Document.admits_append_comparing_iff, and_assoc,
      liesBetween_iff_holds hl hu hatLeast hatMost]

/-- **A range is its two comparisons.** Take a document that compiles and has no range yet, whose
patterns can be built, and two bounds that are scalars other than null. With the range added it
compiles, and so it does with the two comparisons added instead, both times wherever the new entries
are put. Either way it selects those of its rows that lie between the bounds, and every search of
every store ends in the same way; if the store is not broken, that is with a page. -/
theorem execute_range_eq_comparisons (hp : e.compile d = .ok p) (hbuilt : p.largePattern? = none)
    (hno : ∀ b ∈ d.bounds, ¬ b.2.BoundsRange) (hfield : field ∈ e.queryable)
    (hl : l.IsOperand low) (hu : u.IsOperand high)
    (hatLeast : atLeast.Asks field .greaterOrEqual l)
    (hatMost : atMost.Asks field .lessOrEqual u) {ranged compared : Document}
    (hranged : (d ++ .ranging field l u).Rearranges ranged)
    (hcompared : (d ++ .comparing atLeast ++ .comparing atMost).Rearranges compared) :
    ∃ pr pc, e.compile ranged = .ok pr ∧ e.compile compared = .ok pc
      ∧ (∀ row, ((Query.resolve e pr).selects row = true
          ↔ (Query.resolve e p).selects row = true ∧ LiesBetween row field low high)
        ∧ (Query.resolve e pc).selects row = (Query.resolve e pr).selects row)
      ∧ ∀ (s : Store) r, s.backend.execute pc e r = s.backend.execute pr e r
        ∧ (s.broken = false → ∃ page, (s.backend.execute pr e r).result = .ok page) := by
  obtain ⟨pr, hpr, hsortr, hbuiltr, hselectsr⟩ :=
    exists_compile_range hp hno hfield (hl.isPair hu) hranged
  obtain ⟨pc, hpc, hsortc, hbuiltc, hselectsc⟩ :=
    exists_compile_comparisons hp hfield hl hu hatLeast hatMost hcompared
  -- Both documents add the same condition to what `d` asks for.
  have hselects : ∀ row, (Query.resolve e pc).selects row = (Query.resolve e pr).selects row := by
    intro row
    rw [Bool.eq_iff_iff, hselectsc, hselectsr]
  refine ⟨pr, pc, hpr, hpc, fun row => ⟨hselectsr row, hselects row⟩, ?_⟩
  intro s r
  constructor
  · exact Store.execute_eq_of_selects (hsortc.trans hsortr.symm) hselects (hbuiltr hbuilt)
      (hbuiltc hbuilt) r
  · intro hs
    exact Store.exists_page hs (hbuiltr hbuilt) r

/-! ### Users between twenty and thirty -/

namespace Sample

/-- The users with a name, the youngest first. The bound on the name is malformed. -/
def namedUsers : Document :=
  { Document.empty with
    conditions := [⟨"name", some "like", .string "_%"⟩]
    between := [[("name", .string "x")]]
    order := [⟨"age", some "asc"⟩] }

def namedUsersPlan : Plan :=
  { Plan.empty with
    predicates := [⟨"name", .like, .text "_%"⟩]
    sort := [⟨"age", .ascending⟩]
    skipped := [⟨"name", .notAPair "a string"⟩] }

/-- The upper bound is a text that writes a number, and one operator has blanks around it. -/
theorem twenties_either_way :
    users.compile namedUsers = .ok namedUsersPlan ∧ namedUsersPlan.largePattern? = none
      ∧ (∀ b ∈ namedUsers.bounds, ¬ b.2.BoundsRange) ∧ "age" ∈ users.queryable
      ∧ (integer 20).IsOperand (.integer 20) ∧ (Json.string " 30 ").IsOperand (.text " 30 ")
      ∧ Condition.Asks ⟨"age", some " >= ", integer 20⟩ "age" .greaterOrEqual (integer 20)
      ∧ ∃ pr pc page,
        users.compile (namedUsers ++ .ranging "age" (integer 20) (.string " 30 ")) = .ok pr
        ∧ users.compile (namedUsers ++ .comparing ⟨"age", some " >= ", integer 20⟩
            ++ .comparing ⟨"age", some "<=", .string " 30 "⟩) = .ok pc
        ∧ (Query.resolve users pc).selects (Sample.row (integer 1) "Ann" (integer 30)) = true
        ∧ (store.backend.execute pr users ⟨1, 10, "/users"⟩).result = .ok page
        ∧ (store.backend.execute pc users ⟨1, 10, "/users"⟩).result = .ok page := by
  have hp : users.compile namedUsers = .ok namedUsersPlan := by decide +kernel
  have hbuilt : namedUsersPlan.largePattern? = none := by decide +kernel
  have hno : ∀ b ∈ namedUsers.bounds, ¬ b.2.BoundsRange := by decide +kernel
  have hage : "age" ∈ users.queryable := by decide
  have htwenty : (integer 20).IsOperand (.integer 20) := isOperand_number (.integer 20)
  have hatLeast : Condition.Asks ⟨"age", some " >= ", integer 20⟩ "age" .greaterOrEqual
      (integer 20) := ⟨rfl, rfl, meantOperator?_eq_some_iff.mp (by decide +kernel), nofun⟩
  obtain ⟨pr, pc, hpr, hpc, hselects, hpages⟩ := execute_range_eq_comparisons hp hbuilt hno hage
    htwenty (isOperand_string " 30 ") hatLeast (asks_text .lessOrEqual nofun ..)
    ⟨.refl _, .refl _, .refl _, .refl _, .refl _, rfl⟩
    ⟨.refl _, .refl _, .refl _, .refl _, .refl _, rfl⟩
  obtain ⟨hsame, hpage⟩ := hpages store ⟨1, 10, "/users"⟩
  obtain ⟨page, hpage⟩ := hpage rfl
  refine ⟨hp, hbuilt, hno, hage, htwenty, isOperand_string _, hatLeast, pr, pc, page, hpr, hpc, ?_,
    hpage, hsame ▸ hpage⟩
  rw [(hselects _).2, (hselects _).1]
  exact ⟨by decide +kernel, range_holds_iff.mp (by decide +kernel)⟩

end Sample

end Sift

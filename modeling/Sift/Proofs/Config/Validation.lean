import Sift.Config.Validation
import Sift.Proofs.Compile.Inversion

/-!
# What a valid configuration tells

A configuration is valid if its settings are in place by themselves, its page sizes are in order and
its entities pass. The check of the entities goes along the list with the route segments seen so
far; what it comes to is a condition on the whole list: no segment is reserved, no two are equal,
and every sort passes (`checkEntities_eq_ok_iff`).

Main statement: `validate_eq_ok_iff`.
-/

namespace Sift

/-- A check lets the rest go on, or nothing succeeds. -/
theorem check_bind_eq_ok_iff {ε α : Type} {x : Except ε Unit} {f : Unit → Except ε α} {a : α} :
    (x >>= f) = .ok a ↔ x = .ok () ∧ f () = .ok a := by
  cases x <;> simp [bind, Except.bind]

/-- A list of checks succeeds when each of them does. -/
theorem forM_eq_ok_iff {ε α : Type} {f : α → Except ε Unit} {l : List α} :
    l.forM f = .ok () ↔ ∀ a ∈ l, f a = .ok () := by
  induction l with
  | nil => simp [pure, Except.pure]
  | cons a l ih =>
    show (f a >>= fun _ => l.forM f) = .ok () ↔ _
    rw [check_bind_eq_ok_iff, ih, List.forall_mem_cons]

namespace Config

/-- Entities pass after others if they do by themselves, with segments of their own. -/
theorem checkEntities_eq_ok_iff {taken : List String} {entities : List EntitySettings} :
    checkEntities taken entities = .ok ()
      ↔ (∀ s ∈ entities, s.pluralName ∉ reservedPlurals ∧ checkSort s = .ok ())
        ∧ (entities.map (·.pluralName)).Nodup ∧ ∀ s ∈ entities, s.pluralName ∉ taken := by
  induction entities generalizing taken with
  | nil => simp [checkEntities]
  | cons s rest ih =>
    -- One entity passes if its plural is neither reserved nor among those of the entities before
    -- it.
    have hstep : checkEntities taken (s :: rest) = .ok ()
        ↔ s.pluralName ∉ reservedPlurals ∧ s.pluralName ∉ taken ∧ checkSort s = .ok ()
          ∧ checkEntities (s.pluralName :: taken) rest = .ok () := by
      rw [checkEntities, check_bind_eq_ok_iff, checkPlural_eq_ok_iff]
      by_cases htaken : s.pluralName ∈ taken
      · simp [htaken, throw, throwThe, MonadExceptOf.throw, bind, Except.bind]
      · simp [htaken, check_bind_eq_ok_iff]
    have hown : (∀ x ∈ rest, x.pluralName ∉ s.pluralName :: taken)
        ↔ s.pluralName ∉ rest.map (·.pluralName) ∧ ∀ x ∈ rest, x.pluralName ∉ taken := by
      simp only [List.mem_cons, not_or, forall_and, List.mem_map, not_exists, not_and]
    rw [hstep, ih, hown, List.map_cons, List.nodup_cons, List.forall_mem_cons,
      List.forall_mem_cons]
    tauto

/-- Validation passes if all of its checks do. -/
theorem validate_eq_ok_iff {c : Config} :
    c.validate = .ok () ↔ c.checkSettings = .ok () ∧ checkPageSize c.pagination = .ok ()
      ∧ checkEntities [] c.entities = .ok () := by
  rw [validate, check_bind_eq_ok_iff, check_bind_eq_ok_iff]

end Config

end Sift

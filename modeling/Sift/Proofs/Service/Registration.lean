import Mathlib.Data.Finset.Card
import Sift.Proofs.Service.Dispatch

/-!
# What a registry remembers

A registry is all that is left of a history of registrations. One registration either adds an entity
at the end or puts it in the place of the one that had its route segment (`Registers`), so what a
history leaves can be read off the history itself: which entity has a route segment, in what order
the route segments come, and how many of them there are.

Main statement: `follows_registrations`.
-/

namespace Sift

/-! ## One registration -/

/-- What registering an entity does to a registry, and which entity it displaces. -/
inductive Registers (r : Registry) (e : Entity) : Registry → Option Entity → Prop where
  /-- Nobody has the route segment of the entity. -/
  | added (hfree : e.plural ∉ r.plurals) : Registers r e ⟨r.entities ++ [e]⟩ none
  | replaced {before after : List Entity} {x : Entity}
      (hentities : r.entities = before ++ x :: after) (htaken : x.plural = e.plural)
      (hfirst : ∀ y ∈ before, y.plural ≠ e.plural) :
      Registers r e ⟨before ++ e :: after⟩ (some x)

namespace Registry

variable {r : Registry} {e : Entity}

/-- An entity with a plural of its own comes last. -/
theorem place_of_not_mem {es : List Entity} (h : ∀ x ∈ es, x.plural ≠ e.plural) :
    place e es = es ++ [e] := by
  induction es with
  | nil => rfl
  | cons x es ih =>
    obtain ⟨hx, hes⟩ := List.forall_mem_cons.mp h
    rw [place, if_neg (by simpa using hx), ih hes, List.cons_append]

/-- An entity with the plural of another comes in its place. -/
theorem place_append_cons {before after : List Entity} {x : Entity}
    (hfirst : ∀ y ∈ before, y.plural ≠ e.plural) (htaken : x.plural = e.plural) :
    place e (before ++ x :: after) = before ++ e :: after := by
  induction before with
  | nil => rw [List.nil_append, place, if_pos (by simpa using htaken), List.nil_append]
  | cons y before ih =>
    obtain ⟨hy, hbefore⟩ := List.forall_mem_cons.mp hfirst
    rw [List.cons_append, place, if_neg (by simpa using hy), ih hbefore, List.cons_append]

/-- One registration does what registering means, and gives back the entity that it displaces. -/
theorem registers_register (r : Registry) (e : Entity) :
    Registers r e (r.register e).1 (r.register e).2 := by
  unfold register
  cases hfind : r.find? e.plural with
  | none =>
    have hother : ∀ x ∈ r.entities, x.plural ≠ e.plural := by
      simpa [find?] using hfind
    rw [place_of_not_mem hother]
    apply Registers.added
    intro hmem
    obtain ⟨x, hx, hplural⟩ := List.mem_map.mp hmem
    exact hother x hx hplural
  | some x =>
    obtain ⟨htaken, before, after, hentities, hfirst⟩ := List.find?_eq_some_iff_append.mp hfind
    have htaken : x.plural = e.plural := by simpa using htaken
    have hfirst : ∀ y ∈ before, y.plural ≠ e.plural := by simpa using hfirst
    rw [hentities, place_append_cons hfirst htaken]
    exact .replaced hentities htaken hfirst

/-! ## All of them -/

/-- No two entities of a registry have one route segment, if that holds at the start. -/
theorem nodup_plurals_register (h : r.plurals.Nodup) : (r.register e).1.plurals.Nodup := by
  rw [plurals_register]
  split
  · exact h
  · next hfree =>
    rw [← List.concat_eq_append]
    exact h.concat hfree

/-- No plural is registered twice. -/
theorem nodup_plurals_ofList (es : List Entity) : (ofList es).plurals.Nodup := by
  induction es using List.reverseRecOn with
  | nil => exact List.nodup_nil
  | append_singleton es e ih =>
    rw [ofList_append_singleton]
    exact nodup_plurals_register ih

/-- An entity that has its route segment for itself is found under it. -/
theorem find?_of_mem (h : r.plurals.Nodup) (he : e ∈ r.entities) : r.find? e.plural = some e := by
  cases hfind : r.find? e.plural with
  | none =>
    have hother : ∀ x ∈ r.entities, x.plural ≠ e.plural := by simpa [find?] using hfind
    exact absurd rfl (hother e he)
  | some x =>
    have hx : x ∈ r.entities := List.mem_of_find?_eq_some hfind
    have hplural : x.plural = e.plural := by simpa using List.find?_some hfind
    rw [List.inj_on_of_nodup_map h hx he hplural]

/-- Without repetitions, an item that is added at the end is either there already or new. -/
theorem eraseDups_concat {α : Type} [BEq α] [LawfulBEq α] [DecidableEq α] (l : List α) (a : α) :
    (l ++ [a]).eraseDups = if a ∈ l.eraseDups then l.eraseDups else l.eraseDups ++ [a] := by
  rw [List.eraseDups_append, List.removeAll]
  by_cases h : a ∈ l
  · have hnone : [a].filter (fun x => !l.elem x) = [] := by simp [h]
    rw [hnone, if_pos (List.mem_eraseDups.mpr h), List.eraseDups_nil, List.append_nil]
  · have hone : [a].filter (fun x => !l.elem x) = [a] := by simp [h]
    rw [hone, if_neg (fun hmem => h (List.mem_eraseDups.mp hmem))]
    rfl

/-- The route segments come in the order in which each of them came up first. -/
theorem plurals_ofList (es : List Entity) :
    (ofList es).plurals = (es.map Entity.plural).eraseDups := by
  induction es using List.reverseRecOn with
  | nil => rfl
  | append_singleton es e ih =>
    rw [ofList_append_singleton, plurals_register, ih, List.map_append, List.map_singleton,
      eraseDups_concat]

theorem find?_ofList_eq_none_iff {es : List Entity} {plural : String} :
    (ofList es).find? plural = none ↔ ∀ e ∈ es, e.plural ≠ plural := by
  rw [find?_ofList]
  simp

/-- The entity that is found is the last one with the plural. -/
theorem find?_ofList_iff {es : List Entity} {plural : String} {e : Entity} :
    (ofList es).find? plural = some e ↔ e.plural = plural ∧ e.IsLastOf es := by
  constructor
  · intro h
    obtain ⟨-, rfl⟩ := mem_of_find?_ofList h
    exact ⟨rfl, find?_ofList_eq_some_iff.mp h⟩
  · rintro ⟨rfl, hlast⟩
    exact find?_ofList_eq_some_iff.mpr hlast

/-- The entities in the order of their route segments. -/
theorem map_find?_plurals (h : r.plurals.Nodup) :
    r.plurals.map r.find? = r.entities.map some := by
  rw [plurals, List.map_map]
  apply List.map_congr_left
  intro e he
  exact find?_of_mem h he

/-- **A registry follows its registrations.** Let entities be registered one after the other,
whether singly or collected from a list. A route segment belongs to the last entity that was
registered with it, and to nobody if none was. The route segments come in the order of their first
registrations, the names of the entities that have them now in the same order, and there are as many
as there are different ones. An entity is found under its own route segment. Another registration
adds its entity at the end, or gives it the place of the one that it returns. -/
theorem follows_registrations (es : List Entity) :
    (∀ plural e, (ofList es).find? plural = some e ↔ e.plural = plural ∧ e.IsLastOf es)
      ∧ (∀ plural, (ofList es).find? plural = none ↔ ∀ e ∈ es, e.plural ≠ plural)
      ∧ (ofList es).plurals = (es.map Entity.plural).eraseDups
      ∧ (ofList es).names.map some
        = (ofList es).plurals.map (fun plural => ((ofList es).find? plural).map Entity.name)
      ∧ (ofList es).size = (es.map Entity.plural).toFinset.card
      ∧ (∀ e ∈ (ofList es).entities, (ofList es).find? e.plural = some e)
      ∧ ∀ e, ((ofList es).register e).1 = ofList (es ++ [e])
        ∧ Registers (ofList es) e ((ofList es).register e).1 ((ofList es).register e).2 := by
  have hnodup : (ofList es).plurals.Nodup := nodup_plurals_ofList es
  refine ⟨fun _ _ => find?_ofList_iff, fun _ => find?_ofList_eq_none_iff, plurals_ofList es, ?_, ?_,
    fun e he => find?_of_mem hnodup he, fun e => ⟨?_, registers_register _ e⟩⟩
  · have hfound := congrArg (List.map (Option.map Entity.name)) (map_find?_plurals hnodup)
    rw [List.map_map, List.map_map] at hfound
    rw [names, List.map_map]
    exact hfound.symm
  -- Plurals are registered once each, so their list is as long as their set is large.
  · have hsame : (es.map Entity.plural).toFinset = (ofList es).plurals.toFinset := by
      rw [plurals_ofList]
      ext plural
      simp
    rw [hsame, List.toFinset_card_of_nodup hnodup, plurals, List.length_map, size]
  · rw [ofList_append_singleton]

/-- The members take the place of the users. -/
example : (ofList [Sample.user, Sample.dish, Sample.member]).names = ["member", "dish"] := by
  decide +kernel

end Registry

end Sift

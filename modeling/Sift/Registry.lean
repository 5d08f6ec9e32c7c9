import Sift.Entity

/-!
# The registry of entities

The entities of a service by their route segments, in the order in which the segments were first
registered. Registering an entity under a segment that is taken replaces the old one in its place.

Main statements: `find?_register_self`, `find?_register_of_ne` and `plurals_register`.
-/

namespace Sift

/-- Entities in the order in which their route segments were first registered. -/
structure Registry where
  entities : List Entity

namespace Registry

def empty : Registry := ⟨[]⟩

/-- Puts an entity in the place of the one with its route segment, or at the end. -/
def place (e : Entity) : List Entity → List Entity
  | [] => [e]
  | x :: rest => if x.plural == e.plural then e :: rest else x :: place e rest

def find? (r : Registry) (plural : String) : Option Entity :=
  r.entities.find? (·.plural == plural)

/-- The registry with `e` in it, and the entity it displaced. -/
def register (r : Registry) (e : Entity) : Registry × Option Entity :=
  (⟨place e r.entities⟩, r.find? e.plural)

def ofList (es : List Entity) : Registry := es.foldl (fun r e => (r.register e).1) empty

def plurals (r : Registry) : List String := r.entities.map Entity.plural

def names (r : Registry) : List String := r.entities.map Entity.name

def size (r : Registry) : Nat := r.entities.length

def isEmpty (r : Registry) : Bool := r.entities.isEmpty

/-- An entity is found under its plural as soon as it is registered. -/
theorem find?_register_self (r : Registry) (e : Entity) :
    (r.register e).1.find? e.plural = some e := by
  obtain ⟨es⟩ := r
  show (place e es).find? _ = _
  induction es with
  | nil => simp [place]
  | cons x rest ih => by_cases h : x.plural = e.plural <;> simp [place, h, ih]

/-- Registering an entity does not touch those of other plurals. -/
theorem find?_register_of_ne (r : Registry) {e : Entity} {plural : String}
    (h : plural ≠ e.plural) : (r.register e).1.find? plural = r.find? plural := by
  obtain ⟨es⟩ := r
  show (place e es).find? _ = es.find? _
  have h' : (e.plural == plural) = false := by simpa using h.symm
  induction es with
  | nil => simp [place, h']
  | cons x rest ih =>
    by_cases hx : x.plural = e.plural
    · simp [place, hx, h']
    · simp [place, hx, List.find?_cons, ih]

/-- An entity that takes the place of another keeps its place in the order. -/
theorem plurals_register (r : Registry) (e : Entity) :
    (r.register e).1.plurals
      = if e.plural ∈ r.plurals then r.plurals else r.plurals ++ [e.plural] := by
  obtain ⟨es⟩ := r
  show (place e es).map Entity.plural
    = if e.plural ∈ es.map Entity.plural then es.map Entity.plural
      else es.map Entity.plural ++ [e.plural]
  induction es with
  | nil => simp [place]
  | cons x rest ih =>
    by_cases hx : x.plural = e.plural
    · simp [place, hx]
    · have hx' : e.plural ≠ x.plural := fun h => hx h.symm
      by_cases hm : e.plural ∈ rest.map Entity.plural <;>
        simp_all [place]

end Registry

end Sift

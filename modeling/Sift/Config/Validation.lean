import Sift.Config.Basic
import Sift.Config.Error

/-!
# Valid configurations

A configuration is checked in two steps. First every setting is looked at by itself, and all that
are out of place are reported together; then come the rules that tie settings together, of which
the first one broken is reported. A valid configuration has its page sizes in order, gives every
entity a route segment of its own that no fixed route takes, and sorts by admitted columns only.

Main statement: `checkPlural_eq_ok_iff`.
-/

namespace Sift

/-- The route segments of the fixed routes. -/
def reservedPlurals : List String := ["health"]

def checkPlural (plural : String) : Except ConfigError Unit :=
  if reservedPlurals.contains plural then
    .error (.invalidValue "entities.plural" plural "route name is reserved")
  else
    .ok ()

/-- An entity may have any plural that the service does not need for itself. -/
theorem checkPlural_eq_ok_iff (plural : String) :
    checkPlural plural = .ok () ↔ plural ∉ reservedPlurals := by
  unfold checkPlural
  split <;> simp_all

/-! ### Single settings -/

def emptyText (path s : String) : List Violation := if s.isEmpty then [⟨path, .length⟩] else []

def zeroNumber (path : String) (n : UInt64) : List Violation :=
  if n = 0 then [⟨path, .range⟩] else []

/-- What is out of place in the settings of the entity with an index. -/
def EntitySettings.violations (index : Nat) (s : EntitySettings) : List Violation :=
  let path := "entities[" ++ toString index ++ "]"
  emptyText (path ++ ".name") s.name ++ emptyText (path ++ ".primary_key") s.primaryKey

namespace Config

/-- All single settings that are out of place, in the order of their paths. -/
def violations (c : Config) : List Violation :=
  (emptyText "server.bind" c.server.bind
    ++ zeroNumber "pagination.per_page" c.pagination.perPage
    ++ zeroNumber "pagination.max_per_page" c.pagination.maxPerPage
    ++ (c.entities.zipIdx.flatMap fun (s, index) => s.violations index)).mergeSort
      fun a b => !(b.path < a.path)

def checkSettings (c : Config) : Except ConfigError Unit :=
  match c.violations with
  | [] => .ok ()
  | vs => .error (.validation vs)

/-! ### Settings together -/

def checkPageSize (p : Pagination) : Except ConfigError Unit :=
  if p.maxPerPage < p.perPage then
    .error (.invalidValue "pagination.per_page" (toString p.perPage.toNat)
      ("must not exceed max_per_page (" ++ toString p.maxPerPage.toNat ++ ")"))
  else
    .ok ()

/-- Refuses a sort by a column that the entity does not admit. -/
def checkSort (s : EntitySettings) : Except ConfigError Unit :=
  match s.defaultSort.find? fun o => !s.entity.queryable.contains o.field with
  | some o =>
    .error (.invalidValue ("entities." ++ s.name ++ ".default_sort") o.field
      "sort field is not queryable")
  | none => .ok ()

/-- Checks the entities one after the other, `taken` being the route segments before them. -/
def checkEntities (taken : List String) : List EntitySettings → Except ConfigError Unit
  | [] => .ok ()
  | s :: rest => do
    checkPlural s.pluralName
    if taken.contains s.pluralName then
      throw (.invalidValue "entities.plural" s.pluralName "route name is declared twice")
    checkSort s
    checkEntities (s.pluralName :: taken) rest

def validate (c : Config) : Except ConfigError Unit := do
  c.checkSettings
  checkPageSize c.pagination
  checkEntities [] c.entities

end Config

end Sift

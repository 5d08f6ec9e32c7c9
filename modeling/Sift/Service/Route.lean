import Sift.Service.Request

/-!
# Routes

The fixed routes of a service and the two that every entity has. A path is taken apart at its
slashes as it is written; only then is the segment that names an entity decoded. A fixed route takes
precedence over an entity of that name. The path `/` names no entity, while the search of an entity
may have an empty segment: `//search` is a search of the entity without a name.

Main statement: `ofPath_health`.
-/

namespace Sift

inductive Route where
  /-- A route that was added to the service. -/
  | custom (path : String)
  | health
  /-- All rows of an entity. The segment is as it is written. -/
  | list (segment : String)
  /-- The rows of an entity that a document selects. -/
  | search (segment : String)
  deriving DecidableEq

namespace Route

def segments (path : String) : List String :=
  (Text.splitBy '/' path.toList).map String.ofList

/-- The route of a path, `customs` being the paths of the routes that were added. -/
def ofPath (customs : List String) (path : String) : Option Route :=
  if customs.contains path then some (.custom path)
  else
    match segments path with
    | ["", "health"] => some .health
    | ["", segment] => if segment.isEmpty then none else some (.list segment)
    | ["", segment, "search"] => some (.search segment)
    | _ => none

/-- Whether the route answers requests of a method. What answers `GET` answers `HEAD` too. -/
def allows : Route → Method → Bool
  | .search _, m => m = .post
  | _, m => m = .get || m = .head

/-- The health check answers unless a route of the host application takes its path. -/
theorem ofPath_health {customs : List String} (h : "/health" ∉ customs) :
    ofPath customs "/health" = some .health := by
  have hs : segments "/health" = ["", "health"] := by decide +kernel
  simp [ofPath, h, hs]

end Route

end Sift

import Sift.Config.Validation
import Sift.Search
import Sift.Registry

/-!
# Services

A service answers requests for the entities of its registry from a backend. It is built from a
configuration, entities besides those configured, and a backend, which it needs.

Main statements: `registry_build` and `validate_of_build`.
-/

namespace Sift

structure Service where
  backend : Backend
  registry : Registry
  pagination : Pagination
  /-- What the addresses of pages start with. -/
  baseUrl : Option String
  /-- The paths of additional routes and the texts they answer. -/
  customs : List (String × String)

inductive BuildError where
  | config (e : ConfigError)
  | noBackend
  deriving DecidableEq

def BuildError.message : BuildError → String
  | .config e => e.message
  | .noBackend => "QueryBackend is required. Call .with_backend()"

namespace Service

/-- Builds a service. An entity among `extras` takes the place of a configured one with its route
segment. -/
def build (config : Config) (extras : List Entity) (backend : Option Backend)
    (customs : List (String × String)) : Except BuildError Service := do
  config.validate.mapError .config
  extras.forM fun e => (checkPlural e.plural).mapError .config
  match backend with
  | none => throw .noBackend
  | some backend =>
    return { backend
             registry := .ofList (config.descriptors ++ extras)
             pagination := config.pagination
             baseUrl := config.server.baseUrl
             customs }

def builtEvent (s : Service) : Event := .serviceBuilt s.backend.name s.registry.plurals

variable {config : Config} {extras : List Entity} {backend : Option Backend}
  {customs : List (String × String)} {s : Service}

/-- Only a valid configuration makes a service. -/
theorem validate_of_build (h : build config extras backend customs = .ok s) :
    config.validate = .ok () := by
  cases hv : config.validate with
  | error e =>
    have hb : build config extras backend customs = .error (.config e) := by
      unfold build
      rw [hv]
      rfl
    rw [hb] at h
    cases h
  | ok u => rfl

/-- The entities of the configuration are registered first, so that the others may displace them. -/
theorem registry_build (h : build config extras backend customs = .ok s) :
    s.registry = .ofList (config.descriptors ++ extras) := by
  simp only [build, bind, Except.bind] at h
  split at h
  · cases h
  · split at h
    · cases h
    · cases backend with
      | none => cases h
      | some b => cases h; rfl

end Service

end Sift

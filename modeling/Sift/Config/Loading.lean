import Sift.Config.Decoding
import Sift.Config.Validation
import Sift.Event
import Sift.Text.Utf8

/-!
# Loading configurations

A configuration is loaded from a YAML text or from a file that holds one, and it is validated. A
file that has been loaded is reported as an event.

Main statement: `validate_of_load`, what is loaded is valid.
-/

namespace Sift

inductive FileContent where
  | missing
  | directory
  | bytes (content : List UInt8)

namespace Config

/-- The configuration of a text, which is valid. The file it is from is named in the error. -/
def load (file : Option String) (text : String) : Except ConfigError Config :=
  match ofYaml? text with
  | none => .error (.parse file "not a configuration in YAML")
  | some c => c.validate.map fun _ => c

def fileText (path : String) : FileContent → Except ConfigError String
  | .missing => .error (.fileNotFound path)
  | .directory => .error (.io "Is a directory (os error 21)")
  | .bytes content =>
    match Text.decode content with
    | .ok s => .ok s
    | .error _ => .error (.io "stream did not contain valid UTF-8")

def loadFile (path : String) (content : FileContent) : Except ConfigError Config :=
  (fileText path content).bind (load (some path))

def loadEvents (path : String) (content : FileContent) : List Event :=
  match loadFile path content with
  | .ok c => [.configLoaded path c.entities.length]
  | .error _ => []

/-- Whatever file and environment it comes from, a loaded configuration is a valid one. -/
theorem validate_of_load {file : Option String} {text : String} {c : Config}
    (h : load file text = .ok c) : c.validate = .ok () := by
  unfold load at h
  split at h
  · simp at h
  · next d _ =>
    cases hv : d.validate with
    | error e => simp [hv, Except.map] at h
    | ok u => simp [hv, Except.map] at h; rw [← h, hv]

end Config

end Sift

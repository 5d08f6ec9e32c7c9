/-!
# Unusable configurations

Why a configuration could not be used: it could not be read, or a setting is out of place.
-/

namespace Sift

/-- A rule that a single setting breaks. -/
inductive Rule where
  /-- The text must not be empty. -/
  | length
  /-- The number must be at least one. -/
  | range
  deriving DecidableEq, Repr

def Rule.code : Rule → String
  | .length => "length"
  | .range => "range"

/-- A setting, given by its path, and the rule it breaks. -/
structure Violation where
  path : String
  rule : Rule
  deriving DecidableEq, Repr

inductive ConfigError where
  /-- The text is no configuration. -/
  | parse (file : Option String) (message : String)
  | invalidValue (field value message : String)
  | validation (violations : List Violation)
  | fileNotFound (path : String)
  | io (message : String)
  deriving DecidableEq, Repr

def ConfigError.message : ConfigError → String
  | .parse file m =>
    "Failed to parse config" ++ (match file with
      | some f => " file '" ++ f ++ "'"
      | none => "") ++ ": " ++ m
  | .invalidValue field value m =>
    "Invalid value '" ++ value ++ "' for field '" ++ field ++ "': " ++ m
  | .validation vs =>
    "Invalid configuration: " ++ "\n".intercalate (vs.map fun v => v.path ++ ": " ++ v.rule.code)
  | .fileNotFound path => "Configuration file not found: " ++ path
  | .io m => "IO error: " ++ m

end Sift

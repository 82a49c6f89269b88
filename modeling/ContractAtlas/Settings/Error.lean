import ContractAtlas.Failure.Report
import ContractAtlas.Yaml.Error

/-!
What can be wrong with the configuration file as a whole: its text is no YAML, or it holds something
other than a mapping.
-/
namespace ContractAtlas
set_option autoImplicit false

inductive ConfigurationCause where
  | badText (fault : Yaml.Fault)
  | notMapping

def ConfigurationCause.message : ConfigurationCause → String
  | .badText fault => "Invalid config file: " ++ fault.message
  | .notMapping => "Config file must contain a mapping"

/-- A cause, and the path of the file. -/
structure ConfigurationError where
  cause : ConfigurationCause
  path : String

def ConfigurationError.report (e : ConfigurationError) : Report :=
  ⟨.configuration, e.cause.message, pathDetails (some e.path)⟩

end ContractAtlas

/-!
Log records as data: a level, the part of the program that speaks, and a message. Functions that log
hand back their records in order; what becomes of a record is decided by the sinks in force.
-/
namespace ContractAtlas.Log
set_option autoImplicit false

/-! ## Levels -/

inductive Level where
  | debug
  | info
  | warning
  | error
  deriving DecidableEq

namespace Level

def severity : Level → Nat
  | .debug => 10
  | .info => 20
  | .warning => 30
  | .error => 40

def name : Level → String
  | .debug => "DEBUG"
  | .info => "INFO"
  | .warning => "WARNING"
  | .error => "ERROR"

/-- The name in a column of five characters. -/
def column (level : Level) : String :=
  level.name ++ String.ofList (List.replicate (5 - level.name.length) ' ')

/-- Whether a record of this level passes a threshold. -/
def reaches (level threshold : Level) : Bool := threshold.severity ≤ level.severity

end Level

/-! ## Records -/

/-- The parts of the program that log. -/
inductive Source where
  | program
  | values
  | extraction
  | loading
  | registry
  | commandLine
  | explorer
  deriving DecidableEq

def Source.name : Source → String
  | .program => "solexplorer"
  | .values => "solexplorer.ast.values"
  | .extraction => "solexplorer.ast.extractor"
  | .loading => "solexplorer.ast.loader"
  | .registry => "solexplorer.ast.registry"
  | .commandLine => "solexplorer.cli"
  | .explorer => "solexplorer.browser.main"

structure Record where
  level : Level
  source : Source
  message : String
  deriving DecidableEq

/-- A line of a log, with `stamp` for the time. -/
def Record.line (stamp : String) (r : Record) : String :=
  stamp ++ " " ++ r.level.column ++ " [" ++ r.source.name ++ "] " ++ r.message ++ "\n"

end ContractAtlas.Log

import ContractAtlas.Settings.File
import ContractAtlas.Text.CaseMap

/-!
The settings in force. Each has a default; the configuration file may set it in its section for the
explorer, debugging also at the top, and a variable of the environment goes before both. A value from
the file is taken as it is, whatever its type.
-/
namespace ContractAtlas
set_option autoImplicit false

structure Settings where
  dataFolder : Yaml := .str "data"
  extension : Yaml := .str ".json"
  recursive : Yaml := .bool true
  strict : Yaml := .bool true
  debug : Yaml := .bool false

namespace Settings

/-- The settings under the names they have in the file. -/
def entries (s : Settings) : List (String × Yaml) := [
  ("data_folder", s.dataFolder),
  ("extension", s.extension),
  ("recursive", s.recursive),
  ("strict", s.strict),
  ("debug", s.debug)]

/-! ## The file -/

/-- The value of a key in a section; nothing counts as not set. -/
def given (part : Yaml) (key : String) (otherwise : Yaml) : Yaml :=
  ((part.get? key).filter fun value => !value.isNull).getD otherwise

def withSection (s : Settings) (part : Yaml) : Settings where
  dataFolder := given part "data_folder" s.dataFolder
  extension := given part "extension" s.extension
  recursive := given part "recursive" s.recursive
  strict := given part "strict" s.strict
  debug := given part "debug" s.debug

/-- The section for the explorer; one that counts as false is as good as none. -/
def explorerSection (config : Yaml) : Except Failure Yaml :=
  match config.get? "explorer" with
  | none => .ok (.map [])
  | some (.map entries) => .ok (.map entries)
  | some value => if value.isTruthy then .error (.sectionNotMapping value.typeName) else .ok (.map [])

/-- Debugging as set at the top of the file, as a truth value. -/
def withTopDebug (s : Settings) (config : Yaml) : Settings :=
  match config.get? "debug" with
  | some value => { s with debug := .bool value.isTruthy }
  | none => s

/-! ## The environment -/

/-- Whether the value of a variable means yes. -/
def meansYes (value : String) : Bool :=
  ["true", "1", "yes"].contains (Text.lower value)

def withEnvironment (s : Settings) (env : Environment) : Settings where
  dataFolder := ((env.value? dataFolderVariable).map Yaml.str).getD s.dataFolder
  extension := s.extension
  recursive := s.recursive
  strict := ((env.value? strictVariable).map fun v => Yaml.bool (meansYes v)).getD s.strict
  debug := ((env.value? debugVariable).map fun v => Yaml.bool (meansYes v)).getD s.debug

/-! ## All sources -/

/-- The settings that a configuration and an environment amount to. -/
def merge (config : Yaml) (env : Environment) : Except Failure Settings :=
  (explorerSection config).map fun part =>
    ((({} : Settings).withSection part).withTopDebug config).withEnvironment env

def load (d : Disk) (env : Environment) : Except Failure Settings :=
  (loadConfiguration d env).bind fun config => merge config env

end Settings

end ContractAtlas

import ContractAtlas.Disk.Operations
import ContractAtlas.Settings.Location
import ContractAtlas.Yaml.Value.Reader
import ContractAtlas.Yaml.Writer

/-!
The configuration file: reading it, writing it, and making the first one. A file that is not there, or
holds nothing, is an empty configuration; a file that holds something else than a mapping is an error.
-/
namespace ContractAtlas
set_option autoImplicit false
open Disk

/-! ## Reading -/

/-- Every line end as a line feed. -/
def unifyLines : List Char → List Char
  | [] => []
  | '\r' :: '\n' :: rest => '\n' :: unifyLines rest
  | '\r' :: rest => '\n' :: unifyLines rest
  | c :: rest => c :: unifyLines rest

/-- The configuration that a text stands for; `path` is where it comes from. -/
def configurationOf (room : Nat) (path : Path) (text : List Char) : Except Failure Yaml :=
  match Yaml.read room text with
  | .error (.fault fault) => .error (.configuration ⟨.badText fault, path.text⟩)
  | .error (.value fault) => .error (.badScalar fault)
  | .error .tooDeep => .error .tooDeep
  | .ok .null => .ok (.map [])
  | .ok (.map entries) => .ok (.map entries)
  | .ok _ => .error (.configuration ⟨.notMapping, path.text⟩)

def liftFault {α : Type} : Except Fault α → Except Failure α
  | .ok a => .ok a
  | .error fault => .error (.disk fault)

/-- The text of a file in UTF-8. -/
def readText (d : Disk) (path : Path) : Except Failure (List Char) := do
  let octets ← liftFault (d.read path)
  match Text.decodeUtf8 false 0 octets with
  | .ok text => .ok text
  | .error _ => .error .notUtf8

/-- The configuration on the disk. -/
def loadConfiguration (d : Disk) (env : Environment) : Except Failure Yaml := do
  let path ← configurationPath env
  if ← liftFault (d.exists? path) then
    configurationOf env.room path (unifyLines (← readText d path))
  else .ok (.map [])

/-! ## Writing -/

/-- Makes the folder for the program's files. What could be made stays, even on a fault. -/
def ensureDataFolder (d : Disk) (env : Environment) : Disk × Except Failure Path :=
  match dataPath env with
  | .error failure => (d, .error failure)
  | .ok path =>
    match d.makePath path with
    | (d, none) => (d, .ok path)
    | (d, some fault) => (d, .error (.disk fault))

/-- Writes the configuration file with a content. -/
def writeConfiguration (d : Disk) (env : Environment) (content : String) : Disk × Except Failure Path :=
  match ensureDataFolder d env with
  | (d, .error failure) => (d, .error failure)
  | (d, .ok folder) =>
    let path := folder.child "config.yaml"
    match d.write path content.toUTF8.toList with
    | .error fault => (d, .error (.disk fault))
    | .ok d => (d, .ok path)

def saveConfiguration (d : Disk) (env : Environment) (config : Json) : Disk × Except Failure Path :=
  writeConfiguration d env (Yaml.textOf config)

/-- The configuration file as it is first made. -/
def defaultConfiguration : String := "# SolExplorer Configuration
# Edit this file to customize SolExplorer behavior.

explorer:
  # Folder holding compiler AST documents (one JSON file per compilation unit)
  data_folder: \"data\"

  # Only files with this extension are loaded
  extension: \".json\"

  # Descend into subdirectories of data_folder
  recursive: true

  # Abort the whole load on the first unreadable or malformed file.
  # Set to false to skip bad files and report them as diagnostics.
  strict: true

# Enable debug logging
debug: false
"

/-- Makes the configuration file unless it is there: whether it was made. -/
def createConfiguration (d : Disk) (env : Environment) : Disk × Except Failure Bool :=
  match (configurationPath env).bind fun path => liftFault (d.exists? path) with
  | .error failure => (d, .error failure)
  | .ok true => (d, .ok false)
  | .ok false =>
    match writeConfiguration d env defaultConfiguration with
    | (d, .error failure) => (d, .error failure)
    | (d, .ok _) => (d, .ok true)

end ContractAtlas

import ContractAtlas.Disk.Operations
import ContractAtlas.Log.Record
import ContractAtlas.Settings.Basic

/-!
Where log records go: to the console and, if one is open, to a log file. Setting up the log replaces
both. While a log file is open the console only gets warnings, since the explorer owns the terminal.
The file is known by its number on the disk, so records still reach it when it has been moved away.
-/
namespace ContractAtlas.Log
set_option autoImplicit false
open Disk

/-! ## Sinks -/

/-- An open log file: its number, the place where it was opened, and its threshold. -/
structure FileSink where
  id : Nat
  place : List String
  threshold : Level

/-- The level of the log, the threshold of the console if there is one, and the log file if there is
one. -/
structure Sinks where
  level : Level := .warning
  console : Option Level := none
  file : Option FileSink := none

/-- The lines of the records that pass a threshold. -/
def lines (stamp : String) (threshold : Level) (log : List Record) : String :=
  String.join ((log.filter (·.level.reaches threshold)).map (·.line stamp))

/-- Adds records to the log file, if one is open. -/
def Sinks.record (s : Sinks) (stamp : String) (d : Disk) (log : List Record) : Disk :=
  match s.file with
  | none => d
  | some file => d.append file.id (lines stamp file.threshold log).toUTF8.toList

/-- What the console shows of records. -/
def Sinks.shown (s : Sinks) (stamp : String) (log : List Record) : String :=
  match s.console with
  | none => ""
  | some threshold => lines stamp threshold log

/-! ## Setting up -/

/-- Whether to log for debugging, as far as the environment says. -/
def wantsDebug (env : Environment) : Bool := Settings.meansYes ((env.get? debugVariable).getD "")

/-- The log file asked for: the one named, else that of the environment, else the usual one. The
empty text asks for none. -/
def fileText (env : Environment) (named : Option String) : Except Failure String :=
  match named, env.value? logFileVariable with
  | some text, _ => .ok text
  | none, some text => .ok text
  | none, none => (dataPath env).map fun path => (path.child "solexplorer.log").text

def openedRecord (text : String) : Record := ⟨.info, .program, "Logging to file: " ++ text⟩

/-- Opens a log file, making the folders it needs. Its path is followed lexically. -/
def openLog (d : Disk) (text : String) : Disk × Except Failure (List String × Nat) :=
  let path := Path.ofString text
  match d.makePath path.parent with
  | (d, some fault) => (d, .error (.disk fault))
  | (d, none) =>
    let place := path.lexical d.here
    match d.openFile ⟨"/", place⟩ with
    | .error fault => (d, .error (.disk fault))
    | .ok (d, _, id) => (d, .ok (place, id))

/-- Sets up the log at a level, with a log file unless its text is empty. The old sinks are gone even
if the file cannot be opened. -/
def setUpAt (d : Disk) (stamp : String) (level : Level) (text : String) :
    Disk × Sinks × Except Failure Unit :=
  if text = "" then (d, { level, console := some level }, .ok ())
  else
    let sinks : Sinks := { level, console := some .warning }
    match openLog d text with
    | (d, .error failure) => (d, sinks, .error failure)
    | (d, .ok (place, id)) =>
      let sinks := { sinks with file := some ⟨id, place, level⟩ }
      (sinks.record stamp d [openedRecord text], sinks, .ok ())

def setUp (d : Disk) (env : Environment) (stamp : String) (old : Sinks) (debug : Option Bool)
    (named : Option String) : Disk × Sinks × Except Failure Unit :=
  match fileText env named with
  | .error failure => (d, old, .error failure)
  | .ok text => setUpAt d stamp (if debug.getD (wantsDebug env) then .debug else .info) text

end ContractAtlas.Log

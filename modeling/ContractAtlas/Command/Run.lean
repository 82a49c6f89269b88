import ContractAtlas.Atlas.Listing
import ContractAtlas.Command.Arguments
import ContractAtlas.Workspace.Basic

/-!
Running a command line. It may show its help, make the first configuration file, print the listing of
a folder, or start the explorer. Printing the listing opens no log file, so it leaves the disk as it
is; starting the explorer hands back what it is to be started with.
-/
namespace ContractAtlas.Command
set_option autoImplicit false

/-! ## Outcomes -/

/-- What an atlas is to be built from. The values come from the settings as they are. -/
structure Source where
  folder : Yaml
  extension : Yaml
  recursive : Yaml
  strict : Yaml

/-- The exit code, what was printed and shown as errors, and the explorer to start, if any. -/
structure Outcome where
  code : Nat := 0
  out : String := ""
  err : String := ""
  explorer : Option Source := none

def Outcome.failed (err : String) : Outcome := { code := 1, err }

/-! ## Sources -/

/-- A value, unless a flag speaks against it. -/
def unlessFlag (value : Yaml) (against : Bool) : Yaml :=
  if value.isTruthy then .bool (!against) else value

/-- The options go before the settings; a folder that is empty is as good as none. -/
def sourceOf (o : Options) (s : Settings) : Source where
  folder := ((o.folder.filter (· ≠ "")).map Yaml.str).getD s.dataFolder
  extension := s.extension
  recursive := unlessFlag s.recursive o.noRecursive
  strict := unlessFlag s.strict o.lenient

/-- Only a text is the suffix of any file. -/
def suffixOf : Yaml → Option String
  | .str s => some s
  | _ => none

def Source.search (source : Source) : Disk.Search :=
  ⟨suffixOf source.extension, source.recursive.isTruthy⟩

def Source.build (source : Source) (w : Workspace) :
    Workspace × Except Failure Atlas × List Log.Record :=
  match source.folder with
  | .str folder => w.build folder source.search source.strict.isTruthy
  | _ => (w, .error .folderNotText, [])

/-! ## Modes -/

def initConfiguration (w : Workspace) : Workspace × Except Failure Outcome :=
  let (disk, made) := createConfiguration w.disk w.environment
  ({ w with disk }, do
    let path ← configurationPath w.environment
    return { out := (if ← made then "Created " else "Config already exists: ") ++ path.text ++ "\n" })

def failedRecord (report : Report) : Log.Record :=
  ⟨.error, .commandLine, "Error parsing contract files: " ++ report.text⟩

/-- The outcome of printing the listing, and the records to show before it. -/
def listing (w : Workspace) (source : Source) : Workspace × Except Failure Outcome :=
  match source.build w with
  | (w, .ok a, log) => (w, .ok { out := a.listing ++ "\n", err := w.shown log })
  | (w, .error failure, log) =>
    match failure.report? with
    | none => (w, .error failure)
    | some report =>
      let record := failedRecord report
      (w.record [record], .ok (.failed (w.shown (log ++ [record]) ++ record.message ++ "\n")))

/-- The part of a run behind the settings. -/
def runWith (w : Workspace) (o : Options) (s : Settings) : Workspace × Except Failure Outcome :=
  let debug := o.debug || s.debug.isTruthy
  match w.setUpLog (some debug) (if o.list then some "" else none) with
  | (w, .error failure) => (w, .error failure)
  | (w, .ok ()) =>
    let source := sourceOf o s
    if o.list then listing w source else (w, .ok { explorer := some source })

def runOptions (w : Workspace) (o : Options) : Workspace × Except Failure Outcome :=
  if o.initConfig then initConfiguration w
  else match Settings.load w.disk w.environment with
  | .ok s => runWith w o s
  | .error failure =>
    match failure.report? with
    | none => (w, .error failure)
    | some report => (w, .ok (.failed ("Error loading configuration: " ++ report.text ++ "\n")))

def run (w : Workspace) (words : List String) : Workspace × Except Failure Outcome :=
  match parse words with
  | .help => (w, .ok { out := help })
  | .misuse misuse => (w, .ok { code := 2, err := misuse.message })
  | .run options => runOptions w options

end ContractAtlas.Command

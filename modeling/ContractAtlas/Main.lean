import ContractAtlas.Command.Run
import ContractAtlas.Workspace.Explorer
import Std.Time

/-!
The program on the real disk. It takes a picture of the configuration, the log file and the folder of
documents, runs the command line on it, and writes the files that came out different. The explorer
reads one command a line and shows the screen after each.
-/
namespace ContractAtlas.Main
set_option autoImplicit false
open Disk

/-! ## Pictures of the disk -/

/-- The entry at a path with all that is below it; `next` numbers the files. -/
partial def entryAt (next : IO.Ref Nat) (path : String) : IO Entry := do
  let place := (← IO.currentDir) / path
  match (← place.symlinkMetadata).type with
  | .dir =>
    let entries ← (← place.readDir).toList.mapM fun entry => do
      return (entry.fileName, ← entryAt next (path ++ "/" ++ entry.fileName))
    return .folder entries
  | .symlink =>
    let target ← try pure (← IO.FS.realPath place).toString catch _ => pure "missing"
    return .link target
  | _ =>
    let id ← next.modifyGet fun n => (n, n + 1)
    return .file id (← IO.FS.readBinFile place).toList

/-- Adds what is at a path of the real disk to a picture of it. -/
def picture (d : Disk) (path : String) : IO Disk := do
  let next ← IO.mkRef d.nextId
  let place := (Path.ofString path).lexical d.here
  try
    let entry ← entryAt next path
    let (d, _) := d.makePath (Disk.Path.mk "/" place).parent
    return { d with root := d.root.setAt (some entry) place, nextId := ← next.get }
  catch _ => return d

mutual

/-- The files below an entry with their places. -/
def filesOf (place : List String) : Entry → List (List String × List UInt8)
  | .file _ content => [(place, content)]
  | .link _ => []
  | .folder entries => filesIn place entries

def filesIn (place : List String) : List (String × Entry) → List (List String × List UInt8)
  | [] => []
  | (name, entry) :: rest => filesOf (place ++ [name]) entry ++ filesIn place rest

end

/-- Writes the files in which one picture differs from an earlier one. -/
def writeChanges (before after : Disk) : IO Unit := do
  let old := filesOf [] before.root
  for (place, content) in filesOf [] after.root do
    if old.lookup place != some content then
      IO.FS.createDirAll (Disk.Path.mk "/" place.dropLast).text
      IO.FS.writeBinFile (Disk.Path.mk "/" place).text ⟨content.toArray⟩

/-! ## The workspace -/

/-- The users of the system with their home folders, as the lines of a file say. -/
def usersOf (text : String) : List (String × String) :=
  (text.splitOn "\n").filterMap fun line =>
    match line.splitOn ":" with
    | name :: _ :: _ :: _ :: _ :: home :: _ => some (name, home)
    | _ => none

def environment : IO Environment := do
  let names := ["HOME", dataPathVariable, dataFolderVariable, strictVariable, debugVariable, logFileVariable]
  let values ← names.filterMapM fun name => do return (← IO.getEnv name).map (name, ·)
  let users ← try usersOf <$> IO.FS.readFile "/etc/passwd" catch _ => pure []
  let own := (← IO.getEnv "USER").bind fun user => users.lookup user
  let home := (values.lookup "HOME" <|> own).getD "/"
  return { home, values, users := own.toList.map ("", ·) ++ users }

def stamp : IO String := do
  return (← Std.Time.PlainDateTime.now).format "uuuu-MM-dd HH:mm:ss"

/-- The workspace with the configuration and the log file in its picture. -/
def openWorkspace : IO Workspace := do
  let here := components (← IO.currentDir).toString
  let env ← environment
  let empty : Disk := { root := .folder [], here, nextId := 0 }
  let (d, _) := empty.makePath ⟨"/", here⟩
  let files := (configurationPath env).toOption.toList.map Path.text ++ (Log.fileText env none).toOption.toList
  let d ← files.foldlM picture d
  return { disk := d, environment := env, stamp := ← stamp }

/-- The folder that a command line will load, as far as that can be told. -/
def folderOf (w : Workspace) (words : List String) : Option String :=
  match Command.parse words, Settings.load w.disk w.environment with
  | .run options, .ok settings =>
    match (Command.sourceOf options settings).folder with
    | .str folder => some folder
    | _ => none
  | _, _ => none

/-! ## The explorer -/

def listText {α : Type} (p : Explorer.Pane α) : String :=
  joinLines (("== " ++ p.title ++ " ==") :: (p.texts.zipIdx.map fun (text, i) => toString i ++ "  " ++ text))

def screenText (s : Explorer.Screen) : String :=
  joinLines [joinLines s.stats, listText s.contracts, listText s.members, s.detail]

/-- The action that a line of input asks for, but for a refresh. -/
def actionOf (line : String) : Option Explorer.Screen.Action :=
  match (line.splitOn " ").filter (· ≠ "") with
  | ["show", i] => i.toNat?.map (.highlight .contracts)
  | ["open", i] => i.toNat?.map (.select .contracts)
  | ["member", i] => i.toNat?.map (.highlight .members)
  | ["full", i] => i.toNat?.map (.select .members)
  | ["filter", key] => some (.filter key)
  | ["back"] => some .back
  | _ => none

/-- Reads commands and shows the screen after each, until there are no more or the user quits. -/
partial def explore (w : Workspace) (e : ExplorerSession) : IO Workspace := do
  IO.println (screenText e.screen)
  let line ← (← IO.getStdin).getLine
  let word := line.trimAscii.toString
  if line.isEmpty || word == "quit" then return w
  if word == "reload" then
    let (w, e, _) := { w with disk := ← picture w.disk e.screen.folder }.refreshExplorer e
    explore w e
  else
    match actionOf word with
    | none => explore w e
    | some action =>
      let (screen, view) := e.screen.step action
      if let some view := view then IO.println (joinLines [view.title, view.text])
      explore w { e with screen }

/-! ## Running -/

def failureText (failure : Failure) : String :=
  match failure.report?, failure.bareMessage?, failure with
  | some report, _, _ => report.text
  | none, some text, _ => text
  | none, none, .disk fault => fault.text
  | none, none, .notUtf8 => "The configuration file is not UTF-8"
  | none, none, _ => "The data folder is not a text"

/-- Starts the explorer, if a run asks for it. -/
def startExplorer (w : Workspace) (source : Command.Source) : IO Workspace := do
  match source.folder with
  | .str folder =>
    let (w, e, result) := w.openExplorer folder source.search source.strict.isTruthy
    match result with
    | .error failure =>
      if failure.report?.isSome then explore w e
      else
        IO.eprintln (failureText failure)
        return w
    | .ok _ => explore w e
  | _ =>
    IO.eprintln (failureText .folderNotText)
    return w

/-- Runs a command line on the real disk: the exit code. -/
def run (words : List String) : IO UInt32 := do
  let w ← openWorkspace
  let d ← (folderOf w words).toList.foldlM picture w.disk
  let (w, result) := Command.run { w with disk := d } words
  match result with
  | .error failure =>
    writeChanges d w.disk
    IO.eprintln (failureText failure)
    return 1
  | .ok outcome =>
    IO.print outcome.out
    IO.eprint outcome.err
    let w ← match outcome.explorer with
      | none => pure w
      | some source => startExplorer w source
    writeChanges d w.disk
    return outcome.code.toUInt32

end ContractAtlas.Main

def main (words : List String) : IO UInt32 := ContractAtlas.Main.run words

import ContractAtlas.Atlas.Basic
import ContractAtlas.Document.Load
import ContractAtlas.Document.Walk

/-!
Building an atlas from the documents of a folder, in the order of the walk. A strict build ends with
the first document that fails; a lenient one skips such documents and goes on. A contract without a
name is dropped.
-/
namespace ContractAtlas.Atlas
set_option autoImplicit false

/-! ## One document -/

def registryRecord (level : Log.Level) (message : String) : Log.Record := ⟨level, .registry, message⟩

/-- Takes in a contract that was loaded. -/
def take (a : Atlas) (path : Disk.Path) (c : Contract) : Atlas × List Log.Record :=
  if c.name = "" then
    (a, [registryRecord .debug ("Dropping unnamed contract from " ++ path.text)])
  else if a.contains c.name then
    (a.insert c, [registryRecord .debug
      ("Contract " ++ c.name ++ " from " ++ path.text ++ " replaces an earlier definition")])
  else (a.insert c, [])

/-- Skips a document that failed. -/
def pass (a : Atlas) (path : Disk.Path) (e : DocumentError) : Atlas × List Log.Record :=
  (a.skip ⟨path.text, e⟩,
    [registryRecord .warning ("Skipping " ++ path.text ++ ": " ++ e.message)])

/-! ## All documents -/

def collect (strict : Bool) (a : Atlas) : List Loading → Except Failure Atlas × List Log.Record
  | [] => (.ok a, [])
  | loading :: rest =>
    let goOn (step : Atlas × List Log.Record) :=
      let (result, log) := collect strict step.1 rest
      (result, loading.log ++ step.2 ++ log)
    match loading.result with
    | .ok c => goOn (a.take loading.path c)
    | .error (.document e) =>
      if strict then (.error (.document e), loading.log) else goOn (a.pass loading.path e)
    | .error failure => (.error failure, loading.log)

def loadedFolderRecord (a : Atlas) (folder : String) : Log.Record :=
  registryRecord .info ("Loaded " ++ toString a.size ++ " contract(s) from " ++ folder)

/-- The error of a walk that could not go into a folder. -/
def blockedFailure (folder : Disk.Path) : Failure :=
  .document ⟨.unlistable .nameTooLong, some folder.text⟩

/-- The walk through the documents of a folder; an error if there is no such folder. -/
def walk (d : Disk) (folder : String) (search : Disk.Search) : Except Failure Disk.Walk :=
  let path := Disk.Path.ofString folder
  let missing : Failure := .document ⟨.noFolder, some path.text⟩
  match d.isFolder? path with
  | .error fault => .error (.disk fault)
  | .ok false => .error missing
  | .ok true => ((d.walk? path search).map .ok).getD (.error missing)

/-- The paths of all documents of a folder, in order. -/
def documentPaths (d : Disk) (folder : String) (search : Disk.Search) :
    Except Failure (List Disk.Path) :=
  match walk d folder search with
  | .error failure => .error failure
  | .ok ⟨documents, none⟩ => .ok documents
  | .ok ⟨_, some blocked⟩ => .error (blockedFailure blocked)

/-- Documents are loaded as the walk meets them, so the first failure counts: one of a document, or
that of a folder behind the documents. -/
def build (d : Disk) (folder : String) (search : Disk.Search) (strict : Bool) :
    Except Failure Atlas × List Log.Record :=
  match walk d folder search with
  | .error failure => (.error failure, [])
  | .ok w =>
    match collect strict empty (w.documents.map (loadDocument d)), w.blocked with
    | (.error failure, log), _ => (.error failure, log)
    | (.ok _, log), some blocked => (.error (blockedFailure blocked), log)
    | (.ok a, log), none => (.ok a, log ++ [a.loadedFolderRecord folder])

end ContractAtlas.Atlas

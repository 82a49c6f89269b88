import ContractAtlas.Contract.Extraction
import ContractAtlas.Disk.Operations
import ContractAtlas.Failure.Basic

/-!
Loading one document: its octets from the disk, its text, its JSON value, its contract. Each step has
failures of its own; all but one are errors about the document. The calls that a contract takes are
taken to have room.
-/
namespace ContractAtlas
set_option autoImplicit false

/-! ## Steps -/

def documentFailure (cause : DocumentCause) (path : Disk.Path) : Failure :=
  .document ⟨cause, some path.text⟩

/-- The complaint of the reader with the line and column it is about. -/
def jsonFault (text : List Char) (complaint : Json.Complaint) (position : Nat) : JsonFault :=
  let (line, column) := Json.lineColumn text position
  ⟨complaint, line, column, position⟩

/-- The JSON value that octets stand for. -/
def decodeDocument (path : Disk.Path) (octets : List UInt8) : Except Failure Json :=
  match Text.decodeDetected octets with
  | .error fault => .error (documentFailure (.badOctets fault) path)
  | .ok text =>
    match Json.read text with
    | .ok json => .ok json
    | .error (.malformed complaint position) =>
      .error (documentFailure (.badText (jsonFault text complaint position)) path)
    | .error (.longInteger digits) => .error (.longInteger digits)

def readDocument (d : Disk) (path : Disk.Path) : Except Failure Json :=
  match d.read path with
  | .error .nullInPath => .error (.disk .nullInPath)
  | .error fault => .error (documentFailure (.unreadable fault) path)
  | .ok octets => decodeDocument path octets

/-! ## Loading -/

/-- The outcome of loading a document, with what was logged on the way. -/
structure Loading where
  path : Disk.Path
  result : Except Failure Contract
  log : List Log.Record

def loadedRecord (path : Disk.Path) (c : Contract) : Log.Record :=
  ⟨.debug, .loading,
    "Loaded " ++ (if c.name = "" then "<unnamed>" else c.name) ++ " from " ++ path.text⟩

def loadDocument (d : Disk) (path : Disk.Path) : Loading :=
  match readDocument d path with
  | .error failure => ⟨path, .error failure, []⟩
  | .ok document =>
    match extract? document with
    | none => ⟨path, .error (documentFailure .noSyntaxTree path), []⟩
    | some (c, notes) => ⟨path, .ok c, notes.map Note.record ++ [loadedRecord path c]⟩

theorem loadDocument_path (d : Disk) (path : Disk.Path) : (loadDocument d path).path = path := by
  unfold loadDocument
  split
  · rfl
  · split <;> rfl

end ContractAtlas

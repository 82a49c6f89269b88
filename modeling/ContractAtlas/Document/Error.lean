import ContractAtlas.Disk.Tree
import ContractAtlas.Failure.Report
import ContractAtlas.Json.Reader
import ContractAtlas.Text.Octets

/-!
Why a folder has no documents, or a document yields no contract: the folder is missing or cannot be
listed; the document cannot be read, its octets or its text cannot be decoded, or it holds no syntax
tree. The cause decides the kind of the error and its message.
-/
namespace ContractAtlas
set_option autoImplicit false

/-! ## Causes -/

/-- A complaint about JSON text together with the place it is about. -/
structure JsonFault where
  complaint : Json.Complaint
  line : Nat
  column : Nat
  position : Nat
  deriving DecidableEq

def JsonFault.message (f : JsonFault) : String :=
  f.complaint.text ++ ": line " ++ toString f.line ++ " column " ++ toString f.column ++ " (char " ++
    toString f.position ++ ")"

inductive DocumentCause where
  | noFolder
  | unlistable (fault : Disk.Fault)
  | unreadable (fault : Disk.Fault)
  | badOctets (fault : Text.Undecodable)
  | badText (fault : JsonFault)
  | noSyntaxTree
  deriving DecidableEq

namespace DocumentCause

def kind : DocumentCause → ErrorKind
  | .noFolder | .unlistable _ | .unreadable _ => .unreadable
  | .badOctets _ | .badText _ => .undecodable
  | .noSyntaxTree => .noSyntaxTree

def message : DocumentCause → String
  | .noFolder => "Contract folder does not exist or is not a directory"
  | .unlistable fault => "Error accessing folder: " ++ fault.text
  | .unreadable fault => "Failed to read contract file: " ++ fault.text
  | .badOctets fault => "Failed to parse contract file: " ++ fault.message
  | .badText fault => "Failed to parse contract file: " ++ fault.message
  | .noSyntaxTree => "No AST found in document"

end DocumentCause

/-! ## Errors -/

/-- A cause, and the path of the document or folder it is about. -/
structure DocumentError where
  cause : DocumentCause
  path : Option String
  deriving DecidableEq

namespace DocumentError

def message (e : DocumentError) : String := e.cause.message

def report (e : DocumentError) : Report := ⟨e.cause.kind, e.message, pathDetails e.path⟩

def text (e : DocumentError) : String := e.report.text

end DocumentError

end ContractAtlas

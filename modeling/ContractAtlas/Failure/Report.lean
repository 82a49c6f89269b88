import ContractAtlas.Json.Display

/-!
Errors that the program reports. Each is of a kind, and the kinds form a tree under one general kind;
the text of a report is its message, followed by its details if there are any.
-/
namespace ContractAtlas
set_option autoImplicit false

/-! ## Kinds -/

inductive ErrorKind where
  | general
  | configuration
  | document
  | unreadable
  | undecodable
  | noSyntaxTree
  deriving DecidableEq

namespace ErrorKind

def name : ErrorKind → String
  | .general => "SolExplorerError"
  | .configuration => "ConfigurationError"
  | .document => "DocumentError"
  | .unreadable => "DocumentReadError"
  | .undecodable => "DocumentDecodeError"
  | .noSyntaxTree => "MissingASTError"

def all : List ErrorKind := [
  .general, .configuration, .document, .unreadable, .undecodable, .noSyntaxTree]

def ofName? (name : String) : Option ErrorKind := all.find? (·.name == name)

/-- The kind and those above it, up to the general one. -/
def ancestry : ErrorKind → List ErrorKind
  | .general => [.general]
  | .configuration => [.configuration, .general]
  | .document => [.document, .general]
  | kind => [kind, .document, .general]

/-- Whether an error of this kind is about one document. -/
def isDocument (kind : ErrorKind) : Bool := kind.ancestry.contains .document

end ErrorKind

/-! ## Reports -/

structure Report where
  kind : ErrorKind
  message : String
  details : List (String × Json)

/-- The details of an error at a place: its path, if it has one. -/
def pathDetails : Option String → List (String × Json)
  | some path => [("path", .str path)]
  | none => []

def Report.text (r : Report) : String :=
  if r.details.isEmpty then r.message
  else r.message ++ " (" ++ (Json.obj r.details).display ++ ")"

end ContractAtlas

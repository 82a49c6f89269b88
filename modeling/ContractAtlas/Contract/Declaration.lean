/-!
What a contract declares. A contract holds the declarations of one source unit by collection, each
collection in the order of the source.
-/
namespace ContractAtlas
set_option autoImplicit false

/-! ## Declarations -/

/-- A parameter of a function, modifier or event; only an event's parameter is ever indexed. -/
structure Parameter where
  name : String
  type : String
  indexed : Bool := false
  deriving DecidableEq

structure ImportDecl where
  absolutePath : String
  file : String
  localName : String := ""
  deriving DecidableEq

/-- A state variable or a member of a struct. The value is its initial value as source text. -/
structure VariableDecl where
  name : String
  type : String
  visibility : String := ""
  stateVariable : Bool := false
  storageLocation : String := ""
  constant : Bool := false
  mutability : String := ""
  functionSelector : String := ""
  value : String := ""
  deriving DecidableEq

/-- A function; constructors, fallback and receive functions are told apart by their kind. -/
structure FunctionDecl where
  name : String
  kind : String := "function"
  visibility : String := ""
  stateMutability : String := ""
  parameters : List Parameter := []
  returnParameters : List Parameter := []
  modifiers : List String := []
  baseFunctions : List Int := []
  overrides : List String := []
  deriving DecidableEq

def FunctionDecl.isConstructor (f : FunctionDecl) : Bool := f.kind == "constructor"

structure EventDecl where
  name : String
  parameters : List Parameter := []
  deriving DecidableEq

structure ModifierDecl where
  name : String
  parameters : List Parameter := []
  deriving DecidableEq

structure StructDecl where
  name : String
  members : List VariableDecl := []
  deriving DecidableEq

structure EnumDecl where
  name : String
  values : List String := []
  deriving DecidableEq

/-! ## Contracts -/

structure Contract where
  name : String
  pragma : String := ""
  imports : List ImportDecl := []
  inherits : List String := []
  constructor : Option FunctionDecl := none
  stateVariables : List VariableDecl := []
  mappings : List VariableDecl := []
  functions : List FunctionDecl := []
  events : List EventDecl := []
  modifiers : List ModifierDecl := []
  structs : List StructDecl := []
  enums : List EnumDecl := []
  deriving DecidableEq

namespace Contract

/-- The contract of a source unit of which nothing has been read. -/
def empty : Contract where
  name := ""

/-- How many declarations each collection holds, in the order in which counts are shown. The
constructor is not counted. -/
def memberCounts (c : Contract) : List (String × Nat) := [
  ("imports", c.imports.length),
  ("variables", c.stateVariables.length),
  ("mappings", c.mappings.length),
  ("functions", c.functions.length),
  ("events", c.events.length),
  ("modifiers", c.modifiers.length),
  ("structs", c.structs.length),
  ("enums", c.enums.length)]

end Contract

end ContractAtlas

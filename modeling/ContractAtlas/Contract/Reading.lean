import ContractAtlas.Contract.Declaration
import ContractAtlas.Source.Node
import ContractAtlas.Source.TypeName

/-!
Typed nodes as declarations. Types and initial values are written out as text; the places in them
that could not be read are listed in the order in which the texts are written.
-/
namespace ContractAtlas.Source
set_option autoImplicit false

/-! ## Variables and parameters -/

def VariableNode.type (v : VariableNode) : TypeName := .ofJson v.typeName

def VariableNode.initial (v : VariableNode) : Expression := .ofJson v.value

def VariableNode.decl (v : VariableNode) : VariableDecl where
  name := v.name
  type := v.type.text
  visibility := v.visibility
  stateVariable := v.stateVariable
  storageLocation := v.storageLocation
  constant := v.constant
  mutability := v.mutability
  functionSelector := v.functionSelector
  value := v.initial.text

def VariableNode.unread (v : VariableNode) : List Unreadable := v.type.unread ++ v.initial.unread

def VariableNode.parameter (v : VariableNode) : Parameter where
  name := v.name
  type := v.type.text
  indexed := v.indexed

def parametersUnread (vs : List VariableNode) : List Unreadable := vs.flatMap (·.type.unread)

/-! ## Other members -/

def FunctionNode.decl (f : FunctionNode) : FunctionDecl where
  name := f.name
  kind := f.kind
  visibility := f.visibility
  stateMutability := f.stateMutability
  parameters := f.parameters.map VariableNode.parameter
  returnParameters := f.returnParameters.map VariableNode.parameter
  modifiers := f.modifiers
  baseFunctions := f.baseFunctions
  overrides := f.overrides

def SignatureNode.event (s : SignatureNode) : EventDecl :=
  ⟨s.name, s.parameters.map VariableNode.parameter⟩

def SignatureNode.modifier (s : SignatureNode) : ModifierDecl :=
  ⟨s.name, s.parameters.map VariableNode.parameter⟩

def StructNode.decl (s : StructNode) : StructDecl := ⟨s.name, s.members.map VariableNode.decl⟩

/-- Only members of the kind of an enum value count. -/
def EnumNode.decl (e : EnumNode) : EnumDecl :=
  ⟨e.name, (e.members.filter fun m => m.kind == "EnumValue").map (·.name)⟩

def ImportNode.decl (i : ImportNode) : ImportDecl := ⟨i.absolutePath, i.file, i.localName⟩

/-- The pragma line of its pieces, run together. -/
def pragmaText (literals : List String) : String := "pragma " ++ String.join literals ++ ";"

/-! ## What could not be read -/

/-- The unreadable places of a member of a contract. -/
def Node.unread : Node → List Unreadable
  | .declaration v => v.unread
  | .function f => parametersUnread f.parameters ++ parametersUnread f.returnParameters
  | .event s | .modifier s => parametersUnread s.parameters
  | .struct s => s.members.flatMap VariableNode.unread
  | _ => []

end ContractAtlas.Source

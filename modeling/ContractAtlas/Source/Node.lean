import ContractAtlas.Source.Grammar
import ContractAtlas.Source.Kind

/-!
Typed nodes. A node of a known kind is checked against the shape of its kind, and the standard form
that the check gives back is read into a structure. A node of another kind is no node here, which is
not an error; a node of a known kind that does not fit its shape is malformed.
-/
namespace ContractAtlas.Source
set_option autoImplicit false
open Schema

/-! ## Reading standard forms -/

def texts (json : Json) : List String := json.items.map Json.textOrEmpty

def flag : Json → Bool
  | .bool b => b
  | _ => false

def whole : Json → Int
  | .int n => n
  | _ => 0

def text (record : Json) (name : String) : String := (record.field name).textOrEmpty

/-! ## Nodes -/

structure ImportNode where
  absolutePath : String
  file : String
  name : String
  unitAlias : String

/-- The name the imported unit goes by: the name given to it, else the alias of the unit. -/
def ImportNode.localName (i : ImportNode) : String := if i.name = "" then i.unitAlias else i.name

structure ContractNode where
  name : String
  bases : List String
  members : List Json

structure VariableNode where
  name : String
  visibility : String
  stateVariable : Bool
  storageLocation : String
  constant : Bool
  mutability : String
  functionSelector : String
  indexed : Bool
  typeName : Json
  value : Json

def VariableNode.isMapping (v : VariableNode) : Bool := v.typeName.kind == "Mapping"

structure FunctionNode where
  name : String
  kind : String
  visibility : String
  stateMutability : String
  parameters : List VariableNode
  returnParameters : List VariableNode
  modifiers : List String
  baseFunctions : List Int
  overrides : List String

/-- An event or a modifier: a name with parameters. -/
structure SignatureNode where
  name : String
  parameters : List VariableNode

structure StructNode where
  name : String
  members : List VariableNode

structure EnumValueNode where
  kind : String
  name : String

structure EnumNode where
  name : String
  members : List EnumValueNode

inductive Node where
  | pragma (literals : List String)
  | importDirective (node : ImportNode)
  | contract (node : ContractNode)
  | declaration (node : VariableNode)
  | function (node : FunctionNode)
  | event (node : SignatureNode)
  | modifier (node : SignatureNode)
  | struct (node : StructNode)
  | enum (node : EnumNode)

/-! ## From standard forms to nodes -/

def ImportNode.ofRecord (r : Json) : ImportNode where
  absolutePath := text r "absolute_path"
  file := text r "file"
  name := text r "name"
  unitAlias := text r "unit_alias"

def ContractNode.ofRecord (r : Json) : ContractNode where
  name := text r "name"
  bases := (r.field "base_contracts").items.map fun base => text (base.field "base_name") "name"
  members := (r.field "nodes").items

def VariableNode.ofRecord (r : Json) : VariableNode where
  name := text r "name"
  visibility := text r "visibility"
  stateVariable := flag (r.field "state_variable")
  storageLocation := text r "storage_location"
  constant := flag (r.field "constant")
  mutability := text r "mutability"
  functionSelector := text r "function_selector"
  indexed := flag (r.field "indexed")
  typeName := r.field "type_name"
  value := r.field "value"

/-- The declarations of a parameter list. -/
def parametersOf (list : Json) : List VariableNode :=
  (list.field "parameters").items.map VariableNode.ofRecord

def FunctionNode.ofRecord (r : Json) : FunctionNode where
  name := text r "name"
  kind := text r "kind"
  visibility := text r "visibility"
  stateMutability := text r "state_mutability"
  parameters := parametersOf (r.field "parameters")
  returnParameters := parametersOf (r.field "return_parameters")
  modifiers := (r.field "modifiers").items.map fun use => text (use.field "modifier_name") "name"
  baseFunctions := (r.field "base_functions").items.map whole
  overrides := ((r.field "overrides").field "overrides").items.map fun base => text base "name"

def SignatureNode.ofRecord (r : Json) : SignatureNode where
  name := text r "name"
  parameters := parametersOf (r.field "parameters")

def StructNode.ofRecord (r : Json) : StructNode where
  name := text r "name"
  members := (r.field "members").items.map VariableNode.ofRecord

def EnumValueNode.ofRecord (r : Json) : EnumValueNode where
  kind := text r "node_type"
  name := text r "name"

def EnumNode.ofRecord (r : Json) : EnumNode where
  name := text r "name"
  members := (r.field "members").items.map EnumValueNode.ofRecord

/-! ## Kinds -/

/-- The kinds of nodes that are read. -/
inductive NodeKind where
  | pragma
  | importDirective
  | contract
  | declaration
  | function
  | event
  | modifier
  | struct
  | enum
  deriving DecidableEq

namespace NodeKind

def tag : NodeKind → String
  | .pragma => "PragmaDirective"
  | .importDirective => "ImportDirective"
  | .contract => "ContractDefinition"
  | .declaration => "VariableDeclaration"
  | .function => "FunctionDefinition"
  | .event => "EventDefinition"
  | .modifier => "ModifierDefinition"
  | .struct => "StructDefinition"
  | .enum => "EnumDefinition"

def all : List NodeKind := [
  .pragma, .importDirective, .contract, .declaration, .function, .event, .modifier, .struct, .enum]

def ofTag? (tag : String) : Option NodeKind := all.find? (·.tag == tag)

def shape : NodeKind → Shape
  | .pragma => Source.pragma
  | .importDirective => Source.importDirective
  | .contract => Source.contract
  | .declaration => Source.declaration
  | .function => Source.function
  | .event => Source.event
  | .modifier => Source.modifier
  | .struct => Source.struct
  | .enum => Source.enum

/-- The node that a standard form of this kind holds. -/
def read : NodeKind → Json → Node
  | .pragma, r => .pragma (texts (r.field "literals"))
  | .importDirective, r => .importDirective (.ofRecord r)
  | .contract, r => .contract (.ofRecord r)
  | .declaration, r => .declaration (.ofRecord r)
  | .function, r => .function (.ofRecord r)
  | .event, r => .event (.ofRecord r)
  | .modifier, r => .modifier (.ofRecord r)
  | .struct, r => .struct (.ofRecord r)
  | .enum, r => .enum (.ofRecord r)

@[simp] theorem ofTag?_tag (kind : NodeKind) : ofTag? kind.tag = some kind := by
  cases kind <;> decide

end NodeKind

/-! ## Reading nodes -/

/-- The kind of a raw node, if it is one that is read. -/
def kindOf? (raw : Json) : Option NodeKind := NodeKind.ofTag? raw.kind

def Node.ofJson (raw : Json) : Checked (Option Node) :=
  match kindOf? raw with
  | none => .ok none
  | some kind => (kind.shape.check raw).map fun record => some (kind.read record)

end ContractAtlas.Source

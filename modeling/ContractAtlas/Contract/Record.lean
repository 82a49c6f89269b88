import ContractAtlas.Contract.Declaration
import ContractAtlas.Json.Value

/-!
Contracts as JSON records: every field of every declaration, under its own name and in order.
-/
namespace ContractAtlas
set_option autoImplicit false

namespace Json

def texts (items : List String) : Json := .arr (items.map .str)

def ofNat (n : Nat) : Json := .int n

end Json

/-! ## Declarations -/

def Parameter.toJson (p : Parameter) : Json := .obj [
  ("name", .str p.name), ("type", .str p.type), ("indexed", .bool p.indexed)]

def ImportDecl.toJson (i : ImportDecl) : Json := .obj [
  ("absolute_path", .str i.absolutePath), ("file", .str i.file), ("alias", .str i.localName)]

def VariableDecl.toJson (v : VariableDecl) : Json := .obj [
  ("name", .str v.name),
  ("type", .str v.type),
  ("visibility", .str v.visibility),
  ("state_variable", .bool v.stateVariable),
  ("storage_location", .str v.storageLocation),
  ("constant", .bool v.constant),
  ("mutability", .str v.mutability),
  ("function_selector", .str v.functionSelector),
  ("value", .str v.value)]

def FunctionDecl.toJson (f : FunctionDecl) : Json := .obj [
  ("name", .str f.name),
  ("kind", .str f.kind),
  ("visibility", .str f.visibility),
  ("state_mutability", .str f.stateMutability),
  ("parameters", .arr (f.parameters.map Parameter.toJson)),
  ("return_parameters", .arr (f.returnParameters.map Parameter.toJson)),
  ("modifiers", .texts f.modifiers),
  ("base_functions", .arr (f.baseFunctions.map .int)),
  ("overrides", .texts f.overrides)]

def EventDecl.toJson (e : EventDecl) : Json := .obj [
  ("name", .str e.name), ("parameters", .arr (e.parameters.map Parameter.toJson))]

def ModifierDecl.toJson (m : ModifierDecl) : Json := .obj [
  ("name", .str m.name), ("parameters", .arr (m.parameters.map Parameter.toJson))]

def StructDecl.toJson (s : StructDecl) : Json := .obj [
  ("name", .str s.name), ("members", .arr (s.members.map VariableDecl.toJson))]

def EnumDecl.toJson (e : EnumDecl) : Json := .obj [
  ("name", .str e.name), ("values", .texts e.values)]

/-! ## Contracts -/

def Contract.toJson (c : Contract) : Json := .obj [
  ("name", .str c.name),
  ("pragma", .str c.pragma),
  ("imports", .arr (c.imports.map ImportDecl.toJson)),
  ("inherits", .texts c.inherits),
  ("constructor", (c.constructor.map FunctionDecl.toJson).getD .null),
  ("variables", .arr (c.stateVariables.map VariableDecl.toJson)),
  ("mappings", .arr (c.mappings.map VariableDecl.toJson)),
  ("functions", .arr (c.functions.map FunctionDecl.toJson)),
  ("events", .arr (c.events.map EventDecl.toJson)),
  ("modifiers", .arr (c.modifiers.map ModifierDecl.toJson)),
  ("structs", .arr (c.structs.map StructDecl.toJson)),
  ("enums", .arr (c.enums.map EnumDecl.toJson))]

/-- Named counts as a record. -/
def countsToJson (counts : List (String × Nat)) : Json :=
  .obj (counts.map fun (key, n) => (key, .ofNat n))

end ContractAtlas

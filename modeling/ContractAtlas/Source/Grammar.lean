import ContractAtlas.Schema.Shape

/-!
The shapes of the nodes a source unit is read for. Only fields that are read are listed. Type names,
initial values and the members of a contract are taken as they are: they are read on their own, so
that a fault in one of them does not spoil the node around it.
-/
namespace ContractAtlas.Source
set_option autoImplicit false
open Schema

/-! ## Fields -/

def textField (key : Key) (default : String := "") : Key × Json × Shape :=
  (key, .str default, .text)

def flagField (key : Key) : Key × Json × Shape := (key, .bool false, .flag)

def listField (key : Key) (item : Shape) : Key × Json × Shape := (key, .arr [], .list item)

def recordField (key : Key) (shape : Shape) : Key × Json × Shape := (key, shape.blank, shape)

/-- The fields of every node: its number and its kind, then those of the node at hand. -/
def nodeFields (kind : String) (fields : List (Key × Json × Shape)) : Fields :=
  .ofList ((.plain "id", .null, .whole) :: textField ⟨"nodeType", "node_type"⟩ kind :: fields)

def node (fields : List (Key × Json × Shape)) : Shape := .record none (nodeFields "" fields)

/-! ## Parts of nodes -/

/-- A node that is read for its name only. -/
def reference : Shape := node [textField (.plain "name")]

def inheritance : Shape := node [recordField ⟨"baseName", "base_name"⟩ reference]

def modifierUse : Shape := node [recordField ⟨"modifierName", "modifier_name"⟩ reference]

def overrideList : Shape := node [listField (.plain "overrides") reference]

def declaration : Shape := node [
  textField (.plain "name"),
  textField (.plain "visibility"),
  flagField ⟨"stateVariable", "state_variable"⟩,
  textField ⟨"storageLocation", "storage_location"⟩,
  flagField (.plain "constant"),
  textField (.plain "mutability"),
  textField ⟨"functionSelector", "function_selector"⟩,
  flagField (.plain "indexed"),
  (⟨"typeName", "type_name"⟩, .null, .any),
  (.plain "value", .null, .any)]

/-- A parameter list may be given as the bare list of its declarations. -/
def parameterList : Shape :=
  .record (some ⟨"ParameterList", "parameters"⟩)
    (nodeFields "" [listField (.plain "parameters") declaration])

def enumValue : Shape := .record none (nodeFields "EnumValue" [textField (.plain "name")])

/-! ## Nodes of a source unit -/

def pragma : Shape := node [listField (.plain "literals") .text]

def importDirective : Shape := node [
  textField ⟨"absolutePath", "absolute_path"⟩,
  textField (.plain "file"),
  textField (.plain "name"),
  textField ⟨"unitAlias", "unit_alias"⟩]

def contract : Shape := node [
  textField (.plain "name"),
  listField ⟨"baseContracts", "base_contracts"⟩ inheritance,
  listField (.plain "nodes") .any]

/-! ## Nodes of a contract -/

def function : Shape := node [
  textField (.plain "name"),
  textField (.plain "kind") "function",
  textField (.plain "visibility"),
  textField ⟨"stateMutability", "state_mutability"⟩,
  recordField (.plain "parameters") parameterList,
  recordField ⟨"returnParameters", "return_parameters"⟩ parameterList,
  listField (.plain "modifiers") modifierUse,
  listField ⟨"baseFunctions", "base_functions"⟩ .whole,
  (.plain "overrides", .null, overrideList)]

def event : Shape := node [
  textField (.plain "name"),
  recordField (.plain "parameters") parameterList]

def modifier : Shape := node [
  textField (.plain "name"),
  recordField (.plain "parameters") parameterList]

def struct : Shape := node [
  textField (.plain "name"),
  listField (.plain "members") declaration]

def enum : Shape := node [
  textField (.plain "name"),
  listField (.plain "members") enumValue]

end ContractAtlas.Source

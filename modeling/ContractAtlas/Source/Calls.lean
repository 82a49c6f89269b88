import ContractAtlas.Source.Node
import ContractAtlas.Source.TypeName

/-!
How deep calls stand on one another where types and values are turned into text. A function counts as
one call, and one that calls others takes one more than the deepest of them. A type or value is gone
through in two calls for each level, one that looks what is there and one that writes it; a note on what
cannot be read takes the calls of a record for debugging.
-/
namespace ContractAtlas
set_option autoImplicit false

/-! ## Room -/

/-- How many calls may stand on that which goes through a document, and how many of them a record for
debugging takes. Whatever does not nest is taken to have room. -/
structure Stack where
  room : Nat
  record : Nat := 2

/-- Whether there is room for so many calls. -/
def Stack.holds (s : Stack) (calls : Nat) : Bool := decide (calls ≤ s.room)

/-- The most calls of several that are made one after another. -/
def deepest (calls : List Nat) : Nat := calls.foldr max 0

/-! ## Values as shown -/

namespace Json

mutual

/-- Showing a value takes a call for each level, and one for what is inside. -/
def showCalls : Json → Nat
  | .arr items => 1 + itemCalls items
  | .obj fields => 1 + fieldCalls fields
  | _ => 1

def itemCalls : List Json → Nat
  | [] => 0
  | item :: rest => max item.showCalls (itemCalls rest)

def fieldCalls : List (String × Json) → Nat
  | [] => 0
  | (_, value) :: rest => max value.showCalls (fieldCalls rest)

end

end Json

/-! ## Values and types -/

/-- The calls that writing a value takes. The name of a function that is called is written at once. -/
def Expression.calls (record : Nat) : Json → Nat
  | .null | .bool _ => 1
  | .int _ | .float _ | .str _ => 2
  | .arr _ => 1 + record
  | .obj fields =>
    let node := Json.obj fields
    match node.kind with
    | "Literal" =>
      if (node.field "value").isNull then 2 else 2 + Expression.calls record (node.field "value")
    | "Identifier" => 2
    | "UnaryOperation" => 2 + Expression.calls record (node.field "subExpression")
    | "BinaryOperation" =>
      2 + max (Expression.calls record (node.field "leftExpression"))
        (Expression.calls record (node.field "rightExpression"))
    | "FunctionCall" =>
      if (node.field "expression").isObject then
        let callee :=
          if (node.field "expression").kind = "Identifier" then 1
          else Expression.calls record (node.field "expression")
        2 + max callee (2 + deepest ((node.field "arguments").items.attach.map fun argument =>
          Expression.calls record argument.val))
      else 2
    | _ => 1 + max 1 record
termination_by json => sizeOf json
decreasing_by
  all_goals first
    | exact Json.sizeOf_field_lt _ _
    | exact Nat.lt_trans (Json.sizeOf_mem_items (Subtype.property _)) (Json.sizeOf_field_lt _ _)

/-- The calls that writing a type takes. -/
def TypeName.calls (record : Nat) : Json → Nat
  | .obj fields =>
    let node := Json.obj fields
    match node.kind with
    | "ElementaryTypeName" | "UserDefinedTypeName" => 3
    | "Mapping" =>
      2 + max (TypeName.calls record (node.field "keyType"))
        (TypeName.calls record (node.field "valueType"))
    | "ArrayTypeName" =>
      2 + max (TypeName.calls record (node.field "baseType"))
        (Expression.calls record (node.field "length"))
    | _ => 2
  | _ => 2
termination_by json => sizeOf json
decreasing_by all_goals exact Json.sizeOf_field_lt _ _

/-! ## Nodes -/

namespace Source

def VariableNode.calls (record : Nat) (v : VariableNode) : Nat :=
  max (TypeName.calls record v.typeName) (Expression.calls record v.value)

/-- A parameter has a type only, and stands further up than a variable. -/
def parameterCalls (record : Nat) (parameters : List VariableNode) : Nat :=
  deepest (parameters.map fun v => 5 + TypeName.calls record v.typeName)

/-- The calls that taking a node in as a member takes. -/
def Node.calls (record : Nat) : Node → Nat
  | .declaration v => 2 + v.calls record
  | .function f => parameterCalls record (f.parameters ++ f.returnParameters)
  | .event s | .modifier s => parameterCalls record s.parameters
  | .struct s => deepest (s.members.map fun v => 4 + v.calls record)
  | _ => 0

/-- The calls that a raw member takes. The warning about a malformed one shows what it has for a
number. -/
def memberCalls (record : Nat) (raw : Json) : Nat :=
  match Node.ofJson raw with
  | .ok node => (node.map (Node.calls record)).getD 0
  | .error _ => 3 + (raw.field "id").showCalls

/-- The calls that the warning about a malformed node of the source unit takes. -/
def warningCalls (raw : Json) : Nat := 2 + (raw.field "id").showCalls

end Source

end ContractAtlas

import ContractAtlas.Source.Expression

/-!
Type names: a name, a mapping, or an array with an optional length. A type of any other kind reads
as the empty name, which is also its text.
-/
namespace ContractAtlas
set_option autoImplicit false

inductive TypeName where
  | named (name : String)
  | mapping (key value : TypeName)
  | array (base : TypeName) (length : Expression)

namespace TypeName

/-! ## Reading -/

/-- The resolved type of a user-defined name, else the name as written, else that of its path. -/
def userDefined (node : Json) : String :=
  let resolved := ((node.field "typeDescriptions").field "typeString").textOrEmpty
  let written := (node.field "name").textOrEmpty
  if resolved ≠ "" then resolved
  else if written ≠ "" then written
  else ((node.field "pathNode").field "name").textOrEmpty

def ofJson : Json → TypeName
  | .obj fields =>
    let node := Json.obj fields
    match node.kind with
    | "ElementaryTypeName" => .named (node.field "name").textOrEmpty
    | "UserDefinedTypeName" => .named (userDefined node)
    | "Mapping" => .mapping (ofJson (node.field "keyType")) (ofJson (node.field "valueType"))
    | "ArrayTypeName" =>
      .array (ofJson (node.field "baseType")) (Expression.ofJson (node.field "length"))
    | _ => .named ""
  | _ => .named ""
termination_by json => sizeOf json
decreasing_by all_goals exact Json.sizeOf_field_lt _ _

/-! ## Writing -/

def text : TypeName → String
  | .named name => name
  | .mapping key value => "mapping(" ++ key.text ++ " => " ++ value.text ++ ")"
  | .array base length => base.text ++ "[" ++ length.text ++ "]"

/-- The places that could not be read; only lengths can have such places. -/
def unread : TypeName → List Unreadable
  | .named _ => []
  | .mapping key value => key.unread ++ value.unread
  | .array base length => base.unread ++ length.unread

end TypeName

end ContractAtlas

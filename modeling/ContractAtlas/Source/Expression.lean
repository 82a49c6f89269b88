import ContractAtlas.Decimal.Shortest
import ContractAtlas.Log.Record
import ContractAtlas.Source.Kind

/-!
Initial values and constants. A document's value is read as an expression tree (`ofJson`), and the
tree is written back as source text (`text`); nothing is evaluated. Where a value is of a kind that
has no text, the tree keeps what was found there and the text is empty (`unreadable`).
-/
namespace ContractAtlas
set_option autoImplicit false

/-! ## Trees -/

/-- What stands where no expression could be read. -/
inductive Unreadable where
  | node (kind : String)
  | list
  deriving DecidableEq

inductive Expression where
  | atom (text : String)
  | unary (operator : String) (operand : Expression)
  | binary (operator : String) (left right : Expression)
  | call (callee : Expression) (arguments : List Expression)
  | unreadable (what : Unreadable)

namespace Expression

def blank : Expression := .atom ""

/-! ## Reading -/

/-- A literal's text where its value is null: its hexadecimal digits, if it has any. -/
def hexLiteral (node : Json) : Expression := .atom (node.field "hexValue").textOrEmpty

def identifier (node : Json) : Expression := .atom (node.field "name").textOrEmpty

/-- Every value is read as some tree. A node is read by its kind, a scalar as its own text. -/
def ofJson : Json → Expression
  | .null => blank
  | .bool true => .atom "true"
  | .bool false => .atom "false"
  | .int n => .atom (toString n)
  | .float x => .atom x.text
  | .str s => .atom s
  | .arr _ => .unreadable .list
  | .obj fields =>
    let node := Json.obj fields
    match node.kind with
    | "Literal" =>
      if (node.field "value").isNull then hexLiteral node else ofJson (node.field "value")
    | "Identifier" => identifier node
    | "UnaryOperation" =>
      .unary (node.field "operator").textOrEmpty (ofJson (node.field "subExpression"))
    | "BinaryOperation" =>
      .binary (node.field "operator").textOrEmpty
        (ofJson (node.field "leftExpression")) (ofJson (node.field "rightExpression"))
    | "FunctionCall" =>
      if (node.field "expression").isObject then
        .call (ofJson (node.field "expression"))
          ((node.field "arguments").items.attach.map fun ⟨argument, _⟩ => ofJson argument)
      else blank
    | kind => .unreadable (.node kind)
termination_by json => sizeOf json
decreasing_by
  all_goals first
    | exact Json.sizeOf_field_lt _ _
    | exact Nat.lt_trans (Json.sizeOf_mem_items (by assumption)) (Json.sizeOf_field_lt _ _)

/-! ## Writing -/

mutual

/-- An operator always leads its operand, and a binary operation stands in parentheses. -/
def text : Expression → String
  | .atom s => s
  | .unary operator operand => operator ++ operand.text
  | .binary operator left right =>
    "(" ++ left.text ++ " " ++ operator ++ " " ++ right.text ++ ")"
  | .call callee arguments => callee.text ++ "(" ++ String.intercalate ", " (texts arguments) ++ ")"
  | .unreadable _ => ""

def texts : List Expression → List String
  | [] => []
  | e :: rest => e.text :: texts rest

end

theorem texts_eq_map (es : List Expression) : texts es = es.map text := by
  induction es with
  | nil => rfl
  | cons e rest ih => simp [texts, ih]

/-! ## What could not be read -/

mutual

/-- The unreadable places, in the order in which the text is written. -/
def unread : Expression → List Unreadable
  | .atom _ => []
  | .unary _ operand => operand.unread
  | .binary _ left right => left.unread ++ right.unread
  | .call callee arguments => callee.unread ++ unreadAll arguments
  | .unreadable what => [what]

def unreadAll : List Expression → List Unreadable
  | [] => []
  | e :: rest => e.unread ++ unreadAll rest

end

end Expression

def Unreadable.message : Unreadable → String
  | .node kind =>
    "Unhandled node type in value extraction: " ++ (if kind = "" then "<none>" else kind)
  | .list => "Unhandled value type: list"

def Unreadable.record (what : Unreadable) : Log.Record := ⟨.debug, .values, what.message⟩

end ContractAtlas

import ContractAtlas.Decimal.Shortest
import ContractAtlas.Json.Value
import ContractAtlas.Text.Quoted

/-!
How a value is shown in messages: constants by name, numbers in decimal, texts quoted, and lists
and mappings in brackets with their items in order.
-/
namespace ContractAtlas.Json
set_option autoImplicit false

mutual

def display : Json → String
  | .null => "None"
  | .bool true => "True"
  | .bool false => "False"
  | .int n => toString n
  | .float x => x.text
  | .str s => Text.quoted s
  | .arr items => "[" ++ String.intercalate ", " (displayItems items) ++ "]"
  | .obj fields => "\x7b" ++ String.intercalate ", " (displayFields fields) ++ "\x7d"

def displayItems : List Json → List String
  | [] => []
  | item :: rest => display item :: displayItems rest

def displayFields : List (String × Json) → List String
  | [] => []
  | (key, value) :: rest => (Text.quoted key ++ ": " ++ display value) :: displayFields rest

end

/-- Like `display`, but a text on its own stands without quotes. -/
def displayBare : Json → String
  | .str s => s
  | json => json.display

end ContractAtlas.Json

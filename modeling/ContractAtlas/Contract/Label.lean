import ContractAtlas.Contract.Section
import ContractAtlas.Text.Blank

/-!
One-line labels of members, as plain text.
-/
namespace ContractAtlas
set_option autoImplicit false

def commaSeparated (items : List String) : String := String.intercalate ", " items

/-- Type, mark and name of a parameter, those that it has. -/
def Parameter.label (p : Parameter) : String :=
  let words := [p.type, if p.indexed then "indexed" else "", p.name]
  String.intercalate " " (words.filter (· ≠ ""))

def parametersLabel (parameters : List Parameter) : String :=
  "(" ++ commaSeparated (parameters.map Parameter.label) ++ ")"

/-- A function without a name goes by its kind. -/
def FunctionDecl.displayName (f : FunctionDecl) : String := if f.name = "" then f.kind else f.name

def FunctionDecl.label (f : FunctionDecl) : String := f.displayName ++ parametersLabel f.parameters

def Member.label : Member → String
  | .importDecl i => if i.file = "" then i.absolutePath else i.file
  | .variableDecl v => Text.strip (v.type ++ " " ++ v.name)
  | .functionDecl f => f.label
  | .eventDecl e => e.name ++ parametersLabel e.parameters
  | .modifierDecl m => m.name ++ parametersLabel m.parameters
  | .structDecl s => s.name
  | .enumDecl e => e.name

end ContractAtlas

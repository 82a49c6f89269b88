import ContractAtlas.Contract.Label
import ContractAtlas.Text.CaseMap
import ContractAtlas.Text.Markup

/-!
Detail texts in console markup: the full signature of a member, and the summary of a contract. A line
whose value is empty is left out.
-/
namespace ContractAtlas
set_option autoImplicit false
open Text

/-! ## Lines -/

def joinLines (lines : List String) : String := String.intercalate "\n" lines

/-- A caption in green with a value that is already markup. -/
def entry (caption value : String) : String := styled "green" (caption ++ ":") ++ " " ++ value

/-- The same in yellow. -/
def remark (caption value : String) : String := styled "yellow" (caption ++ ":") ++ " " ++ value

/-- The line, if there is a value to show. -/
def entryIf (caption value markup : String) : List String :=
  if value = "" then [] else [entry caption markup]

def heading (caption : String) : String := styled "yellow" (caption ++ ":")

def Parameter.line (p : Parameter) : String :=
  "  - " ++ escape p.name ++ ": " ++ escape p.type ++
    (if p.indexed then " " ++ styled "dim" "(indexed)" else "")

def parameterLines (caption : String) (parameters : List Parameter) : List String :=
  if parameters.isEmpty then [] else heading caption :: parameters.map Parameter.line

def nameLines (caption : String) (names : List String) : List String :=
  if names.isEmpty then [] else [remark caption (escape (commaSeparated names))]

/-! ## Members -/

def FunctionDecl.detail (f : FunctionDecl) : List String :=
  [entry (capitalize f.kind) (escape f.displayName)] ++
  entryIf "Visibility" f.visibility f.visibility ++
  entryIf "State mutability" f.stateMutability f.stateMutability ++
  parameterLines "Inputs" f.parameters ++
  parameterLines "Outputs" f.returnParameters ++
  nameLines "Modifiers" f.modifiers ++
  nameLines "Overrides" f.overrides ++
  (if f.baseFunctions.isEmpty then []
    else [remark "Base functions" (commaSeparated (f.baseFunctions.map toString))])

def VariableDecl.detail (v : VariableDecl) : List String :=
  [entry "Variable" (escape v.name), entry "Type" (escape v.type)] ++
  entryIf "Visibility" v.visibility (escape v.visibility) ++
  entryIf "Storage" v.storageLocation (escape v.storageLocation) ++
  entryIf "Mutability" v.mutability (escape v.mutability) ++
  entryIf "Selector" v.functionSelector (escape v.functionSelector) ++
  (if v.constant then [entry "Constant" "yes"] else []) ++
  entryIf "Value" v.value (escape v.value)

def EventDecl.detail (e : EventDecl) : List String :=
  entry "Event" (escape e.name) :: parameterLines "Parameters" e.parameters

def ModifierDecl.detail (m : ModifierDecl) : List String :=
  entry "Modifier" (escape m.name) :: parameterLines "Parameters" m.parameters

def StructDecl.detail (s : StructDecl) : List String :=
  [entry "Struct" (escape s.name), heading "Members"] ++
  s.members.map fun v => "  - " ++ escape v.name ++ ": " ++ escape v.type

def EnumDecl.detail (e : EnumDecl) : List String :=
  [entry "Enum" (escape e.name), heading "Values"] ++ e.values.map fun v => "  - " ++ escape v

def ImportDecl.detail (i : ImportDecl) : List String :=
  [entry "Import" (escape i.file)] ++
  entryIf "Path" i.absolutePath (escape i.absolutePath) ++
  entryIf "Alias" i.localName (escape i.localName)

def Member.detailLines : Member → List String
  | .importDecl i => i.detail
  | .variableDecl v => v.detail
  | .functionDecl f => f.detail
  | .eventDecl e => e.detail
  | .modifierDecl m => m.detail
  | .structDecl s => s.detail
  | .enumDecl e => e.detail

def Member.detail (m : Member) : String := joinLines m.detailLines

/-! ## Contracts -/

def dimEntry (caption value : String) : String := styled "dim" (caption ++ ":") ++ " " ++ value

/-- The counts that are not zero. -/
def Contract.shownCounts (c : Contract) : List (String × Nat) :=
  c.memberCounts.filter fun (_, n) => n ≠ 0

def Contract.summaryLines (c : Contract) : List String :=
  [styled "bold" (escape c.name)] ++
  (if c.pragma = "" then [] else [styled "dim" (escape c.pragma)]) ++
  [if c.inherits.isEmpty then styled "yellow" "No inheritance"
    else remark "Inherits" (escape (commaSeparated c.inherits))] ++
  [""] ++
  (c.constructor.toList.map fun f => dimEntry "constructor" (escape f.label)) ++
  c.shownCounts.map fun (key, n) => dimEntry key (toString n)

def Contract.summary (c : Contract) : String := joinLines c.summaryLines

end ContractAtlas

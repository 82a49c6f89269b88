import ContractAtlas.Contract.Reading
import ContractAtlas.Json.Display

/-!
From a document to its contract, in one pass over the nodes of the source unit. The first well-formed
contract definition is adopted, and its members are sorted into the collections; imports and the last
pragma come from around it. A node that is malformed, of an unknown kind, or out of place is passed
over with a note, so that a document with any nodes at all yields a contract.
-/
namespace ContractAtlas
set_option autoImplicit false
open Source

/-! ## Notes -/

/-- What is worth telling about a node. -/
inductive Note where
  | unreadable (what : Unreadable)
  | malformed (raw : Json) (violations : Nat)
  | ignoredDefinition (name : String)
  | skippedNode (raw : Json)
  | skippedMember (raw : Json)

namespace Note

def message : Note → String
  | .unreadable what => what.message
  | .malformed raw violations =>
    "Skipping malformed " ++ raw.kind ++ " node (id=" ++ (raw.field "id").displayBare ++ "): " ++
      toString violations ++ " validation error(s)"
  | .ignoredDefinition name => "Ignoring additional contract definition: " ++ name
  | .skippedNode raw => "Skipping top-level node: " ++ raw.kindOr "<untyped>"
  | .skippedMember raw => "Skipping contract member: " ++ raw.kindOr "<untyped>"

/-- A malformed node is a warning, all else is for debugging. -/
def record : Note → Log.Record
  | .unreadable what => what.record
  | .malformed raw violations => ⟨.warning, .extraction, (malformed raw violations).message⟩
  | note => ⟨.debug, .extraction, note.message⟩

end Note

/-- Reads a node, noting where it is malformed; from then on it counts as unknown. -/
def readNode (raw : Json) : Option Node × List Note :=
  match Node.ofJson raw with
  | .ok node => (node, [])
  | .error violations => (none, [.malformed raw violations.length])

/-! ## Members -/

/-- A contract that is being read, and the notes taken so far, in order. -/
structure Draft where
  contract : Contract
  adopted : Bool
  notes : List Note

/-- Puts a member into its collection. A later constructor takes the place of an earlier one. Nodes
that are no members are not placed. -/
def Contract.place? (c : Contract) : Node → Option Contract
  | .declaration v =>
    some (if v.isMapping then { c with mappings := c.mappings ++ [v.decl] }
      else { c with stateVariables := c.stateVariables ++ [v.decl] })
  | .function f =>
    some (if f.decl.isConstructor then { c with constructor := some f.decl }
      else { c with functions := c.functions ++ [f.decl] })
  | .event s => some { c with events := c.events ++ [s.event] }
  | .modifier s => some { c with modifiers := c.modifiers ++ [s.modifier] }
  | .struct s => some { c with structs := c.structs ++ [s.decl] }
  | .enum e => some { c with enums := c.enums ++ [e.decl] }
  | _ => none

namespace Draft

def note (d : Draft) (notes : List Note) : Draft := { d with notes := d.notes ++ notes }

def addMember (d : Draft) (raw : Json) : Draft :=
  let (node, notes) := readNode raw
  let d := d.note notes
  match node.bind fun n => (d.contract.place? n).map (·, n.unread) with
  | some (contract, unread) => { d with contract := contract }.note (unread.map .unreadable)
  | none => d.note [.skippedMember raw]

/-! ## Nodes of the source unit -/

/-- Enters a contract definition, before its members. A name that is known already stands. -/
def begin (d : Draft) (c : ContractNode) : Draft :=
  let name := if d.contract.name = "" then c.name else d.contract.name
  let inherits := d.contract.inherits ++ c.bases
  { d with contract := { d.contract with name := name, inherits := inherits }, adopted := true }

/-- Adopts a contract definition. -/
def adopt (d : Draft) (c : ContractNode) : Draft := c.members.foldl addMember (d.begin c)

def addNode (d : Draft) (raw : Json) : Draft :=
  let (node, notes) := readNode raw
  let d := d.note notes
  match node with
  | some (.pragma literals) => { d with contract := { d.contract with pragma := pragmaText literals } }
  | some (.importDirective i) =>
    { d with contract := { d.contract with imports := d.contract.imports ++ [i.decl] } }
  | some (.contract c) => if d.adopted then d.note [.ignoredDefinition c.name] else d.adopt c
  | _ => d.note [.skippedNode raw]

end Draft

/-! ## Documents -/

/-- The nodes of a source unit: under `ast`, if that is an object, else of the document itself, if
it is a source unit. -/
def sourceNodes (document : Json) : List Json :=
  if (document.field "ast").isObject then ((document.field "ast").field "nodes").items
  else if document.kind = "SourceUnit" then (document.field "nodes").items
  else []

/-- A draft with nothing but the name given in the document, which comes before that of the adopted
definition. -/
def Draft.start (document : Json) : Draft :=
  ⟨{ Contract.empty with name := (document.field "contractName").textOrEmpty }, false, []⟩

/-- Reads the nodes of a document. -/
def draftOf (document : Json) : Draft :=
  (sourceNodes document).foldl Draft.addNode (Draft.start document)

/-- The contract of a document with the notes on it; a document without nodes has none. -/
def extract? (document : Json) : Option (Contract × List Note) :=
  if (sourceNodes document).isEmpty then none
  else
    let draft := draftOf document
    some (draft.contract, draft.notes)

end ContractAtlas

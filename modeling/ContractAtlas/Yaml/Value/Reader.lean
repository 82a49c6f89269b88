import ContractAtlas.Yaml.Graph.Merge
import ContractAtlas.Yaml.Graph.OfTokens
import ContractAtlas.Yaml.Value.Scalar

/-!
Reading YAML: from text over its nodes to the value. Nodes are worked on level by level: a scalar has
its value as soon as it is reached, while a collection waits until the level it stands on is done. Of
two faults the one that is met first in this order is reported. A node is worked on once, however many
aliases it has. A text without a document stands for nothing.
-/
namespace ContractAtlas.Yaml
set_option autoImplicit false

/-! ## Obstacles -/

/-- Why a text has no value: it is no YAML, a scalar in it has no value, or it takes more calls than
there is room for. -/
inductive ReadError where
  | fault (fault : Fault)
  | value (fault : ValueFault)
  | tooDeep

/-- The same before it is known what text it is about. -/
inductive Obstacle where
  | complaint (complaint : Complaint)
  | value (fault : ValueFault)
  | tooDeep

/-- The largest number that is looked up among the characters. -/
def largestNumber : Nat := 0x7FFFFFFF

/-- A number that no character has is a fault of its own, and so is a lack of room. -/
def Obstacle.ofComplaint (complaint : Complaint) : Obstacle :=
  match complaint.problem with
  | .noCharacter number => .value (if largestNumber < number then .hugeNumber else .noCharacter)
  | .tooDeep => .tooDeep
  | _ => .complaint complaint

def refuse {α : Type} (complaint : Complaint) : Except Obstacle α := .error (.complaint complaint)

/-! ## Scalars -/

/-- The text of a scalar. That of a mapping is the text of its default value, the first whose key is
the sign for it, and a default value may have one in turn. -/
def scalarText (g : Graph) (id : Nat) : (room : Nat) → Except Obstacle String
  | 0 => .error .tooDeep
  | room + 1 =>
    match (g.node id).content with
    | .scalar text => .ok text
    | content =>
      match (g.entries id).find? fun entry => (g.node entry.1).tag == .value with
      | some (_, value) => scalarText g value room
      | none => refuse (.bare (.expectedNode "scalar" content.formName) (g.node id).mark)

/-- The value that a text stands for, or the fault in it. -/
def scalarOf {α : Type} (wrap : α → Yaml) : Except ValueFault α → Except Obstacle Yaml
  | .ok a => .ok (wrap a)
  | .error fault => .error (.value fault)

def binaryOf (mark : Mark) (text : String) : Except Obstacle Yaml :=
  match Text.Base64.decode text with
  | .ok octets => .ok (.binary octets)
  | .error fault => refuse (.bare (.badBinary fault) mark)

/-- The value of a node whose tag asks for a scalar. A timestamp must be written as such: the default
value of a mapping is none. -/
def scalarValue (room : Nat) (g : Graph) (id : Nat) : Except Obstacle Yaml :=
  let node := g.node id
  (scalarText g id room).bind fun text =>
    match node.tag, node.content with
    | .null, _ => .ok .null
    | .bool, _ => scalarOf .bool (truthOf text)
    | .int, _ => scalarOf .int (integerOf text)
    | .float, _ => scalarOf .float (floatOf text)
    | .binary, _ => binaryOf node.mark text
    | .timestamp, .scalar _ => scalarOf .timestamp (timestampOf text)
    | .timestamp, _ => .error (.value .timestampInMapping)
    | _, _ => .ok (.str text)

/-! ## Drafts -/

/-- What a node that has been reached amounts to: a value, or a collection of other nodes, which is
empty until it has been worked on. -/
inductive Draft where
  | value (value : Yaml)
  | sequence (ids : List Nat)
  | pairs (entries : List (Nat × Nat))
  | keySet (ids : List Nat)
  | mapping (entries : List (Nat × Nat))

/-- The draft of a collection before it is worked on; a scalar has none. -/
def Draft.ofTag? : Tag → Option Draft
  | .seq => some (.sequence [])
  | .omap | .pairs => some (.pairs [])
  | .set => some (.keySet [])
  | .map => some (.mapping [])
  | _ => none

def Draft.isCollection : Draft → Bool
  | .value _ => false
  | _ => true

/-- Nodes, the drafts of those that have been reached, and the collections that wait, last one
first; also the room for calls. -/
structure Drafting where
  room : Nat
  graph : Graph
  drafts : Array (Option Draft)
  waiting : List Nat := []

namespace Drafting

def ofGraph (room : Nat) (g : Graph) : Drafting :=
  { room, graph := g, drafts := Array.replicate g.size none }

def draft? (d : Drafting) (id : Nat) : Option Draft := d.drafts.getD id none

def put (d : Drafting) (id : Nat) (draft : Draft) : Drafting :=
  { d with drafts := d.drafts.setIfInBounds id (some draft) }

/-- Reaches a node, unless it has been reached before. -/
def reach (d : Drafting) (id : Nat) : Except Obstacle Drafting :=
  match d.draft? id with
  | some _ => .ok d
  | none =>
    let node := d.graph.node id
    match node.tag, Draft.ofTag? node.tag with
    | _, some draft => .ok { d.put id draft with waiting := id :: d.waiting }
    | .merge, _ | .value, _ | .other _, _ => refuse (.bare (.unknownTag node.tag.name) node.mark)
    | _, none => (scalarValue d.room d.graph id).map fun value => d.put id (.value value)

/-! ## Collections -/

/-- Reaches the key and the value of an entry of the mapping at `mark`. A collection is no key. -/
def reachEntry (mark : Mark) (d : Drafting) (entry : Nat × Nat) : Except Obstacle Drafting := do
  let d ← d.reach entry.1
  if (d.draft? entry.1).any Draft.isCollection then
    refuse (.within .mapping mark .unhashableKey (d.graph.node entry.1).mark)
  else d.reach entry.2

/-- Merges a mapping and reaches all that is in it: its entries. -/
def reachMapping (d : Drafting) (id : Nat) : Except Obstacle (Drafting × List (Nat × Nat)) :=
  let node := d.graph.node id
  match node.content with
  | .map _ =>
    match d.graph.merge d.room id with
    | .error complaint => .error (.ofComplaint complaint)
    | .ok graph =>
      let entries := graph.entries id
      (entries.foldlM (reachEntry node.mark) { d with graph }).map (·, entries)
  | content => refuse (.bare (.expectedNode "mapping" content.formName) node.mark)

/-- The only entry of an item, which is to be a pair. -/
def pairOf (context : Context) (mark : Mark) (g : Graph) (id : Nat) : Except Obstacle (Nat × Nat) :=
  let node := g.node id
  match node.content with
  | .map [entry] => .ok entry
  | .map entries => refuse (.within context mark (.expectedOneEntry entries.length) node.mark)
  | content => refuse (.within context mark (.expectedPair content.formName) node.mark)

/-- Reaches the pairs that are the items of a sequence, each as soon as it is known to be one. -/
def reachPairs (context : Context) (mark : Mark) (d : Drafting) :
    List Nat → Except Obstacle (Drafting × List (Nat × Nat))
  | [] => .ok (d, [])
  | id :: rest => do
    let pair ← pairOf context mark d.graph id
    let d ← (← d.reach pair.1).reach pair.2
    let (d, more) ← reachPairs context mark d rest
    return (d, pair :: more)

def workOnPairs (context : Context) (d : Drafting) (id : Nat) : Except Obstacle Drafting :=
  let node := d.graph.node id
  match node.content with
  | .seq items => (reachPairs context node.mark d items).map fun (d, pairs) => d.put id (.pairs pairs)
  | content => refuse (.within context node.mark (.expectedSequence content.formName) node.mark)

/-- Works on a collection: reaches all that is in it. -/
def workOn (d : Drafting) (id : Nat) : Except Obstacle Drafting :=
  let node := d.graph.node id
  match node.tag, node.content with
  | .seq, .seq items => (items.foldlM reach d).map fun d => d.put id (.sequence items)
  | .seq, content => refuse (.bare (.expectedNode "sequence" content.formName) node.mark)
  | .omap, _ => workOnPairs .orderedMap d id
  | .pairs, _ => workOnPairs .pairs d id
  | .set, _ => (d.reachMapping id).map fun (d, entries) => d.put id (.keySet (entries.map (·.1)))
  | _, _ => (d.reachMapping id).map fun (d, entries) => d.put id (.mapping entries)

/-- Works on all that waits, level by level. No level is empty, so there are at most as many as there
are nodes. -/
def finish (d : Drafting) : Nat → Except Obstacle Drafting
  | 0 => .ok d
  | fuel + 1 =>
    if d.waiting.isEmpty then .ok d
    else (d.waiting.reverse.foldlM workOn { d with waiting := [] }).bind (finish · fuel)

end Drafting

/-! ## Values -/

/-- The value of a draft, given those of the nodes it names. -/
def Draft.valueBy (value : Nat → Yaml) : Draft → Yaml
  | .value v => v
  | .sequence ids => .seq (ids.map value)
  | .pairs entries => .seq (entries.map fun (k, v) => .seq [value k, value v])
  | .keySet ids => .set ((entriesOf (ids.map fun id => (value id, .null))).map (·.1))
  | .mapping entries => .map (entriesOf (entries.map fun (k, v) => (value k, value v)))

/-- The nodes that a draft names. -/
def Draft.parts : Draft → List Nat
  | .value _ => []
  | .sequence ids | .keySet ids => ids
  | .pairs entries | .mapping entries => entries.flatMap fun (k, v) => [k, v]

/-- The value of a node down to a depth; below it collections count as nothing. -/
def valueTo (drafts : Array (Option Draft)) : (depth id : Nat) → Yaml
  | 0, id =>
    match drafts.getD id none with
    | some (.value v) => v
    | _ => .null
  | depth + 1, id => ((drafts.getD id none).map (Draft.valueBy (valueTo drafts depth))).getD .null

/-- How deep a node is spelled out inside itself. -/
def cycleDepth : Nat := 3

/-- The values known so far, and whether each node has been entered. -/
structure Valuation where
  values : Array (Option Yaml)
  entered : Array Bool

/-- Finds the value of a node after those of its parts. A part whose value is not known by then has
the node inside itself, and is spelled out down to a depth. -/
def Valuation.enter (drafts : Array (Option Draft)) (id : Nat) (v : Valuation) : Nat → Valuation
  | 0 => v
  | fuel + 1 =>
    match v.entered.getD id true, drafts.getD id none with
    | false, some draft =>
      let start := { v with entered := v.entered.setIfInBounds id true }
      let v := draft.parts.foldl (fun v part => enter drafts part v fuel) start
      let known (part : Nat) := (v.values.getD part none).getD (valueTo drafts cycleDepth part)
      { v with values := v.values.setIfInBounds id (some (draft.valueBy known)) }
    | _, _ => v

/-- The value of a node, all nodes it leads to having been worked on. -/
def valueOfDrafts (drafts : Array (Option Draft)) (id : Nat) : Yaml :=
  let v : Valuation := ⟨Array.replicate drafts.size none, Array.replicate drafts.size false⟩
  ((v.enter drafts id (drafts.size + 1)).values.getD id none).getD .null

def Graph.value (room : Nat) (g : Graph) (root : Nat) : Except Obstacle Yaml := do
  let d ← (Drafting.ofGraph room g).reach root
  let d ← d.finish (g.size + 1)
  return valueOfDrafts d.drafts root

/-! ## Texts -/

/-- Whether YAML text may hold a character. -/
def isAllowed (c : Char) : Bool :=
  c == '\t' || c == '\n' || c == '\r' || (' ' ≤ c && c ≤ '~') || c == '\x85' ||
  ('\xa0' ≤ c && c ≤ '\ufffd') || 0x10000 ≤ c.toNat

def valueOf (room : Nat) (text : List Char) : Except Obstacle Yaml :=
  match Graph.ofText? room text with
  | .error complaint => .error (.ofComplaint complaint)
  | .ok none => .ok .null
  | .ok (some (g, root)) => g.value room root

/-- The value of a text, read with room for so many calls on one another. -/
def read (room : Nat) (text : List Char) : Except ReadError Yaml :=
  match text.findIdx? (fun c => !isAllowed c) with
  | some position => .error (.fault (.badCharacter (text.getD position ' ') position))
  | none =>
    match valueOf room text with
    | .ok yaml => .ok yaml
    | .error (.complaint complaint) => .error (.fault (.complaint text complaint))
    | .error (.value fault) => .error (.value fault)
    | .error .tooDeep => .error .tooDeep

end ContractAtlas.Yaml

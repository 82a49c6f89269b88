import ContractAtlas.Yaml.Tag

/-!
The nodes of a YAML document. A node has a number, and its parts are told by their numbers, so that an
alias is the node of its anchor, also inside that node. A number that no node has stands for a blank.
-/
namespace ContractAtlas.Yaml
set_option autoImplicit false

/-! ## Nodes -/

inductive Content where
  | scalar (text : String)
  | seq (items : List Nat)
  | map (entries : List (Nat × Nat))
  deriving DecidableEq

/-- How complaints call the form of a node. -/
def Content.formName : Content → String
  | .scalar _ => "scalar"
  | .seq _ => "sequence"
  | .map _ => "mapping"

structure Node where
  tag : Tag
  content : Content
  mark : Mark
  deriving DecidableEq

/-- The node that stands where nothing is written. -/
def Node.blank (mark : Mark) : Node := ⟨.null, .scalar "", mark⟩

/-! ## Graphs -/

structure Graph where
  nodes : Array Node := #[]

namespace Graph

def size (g : Graph) : Nat := g.nodes.size

def node (g : Graph) (id : Nat) : Node := g.nodes.getD id (.blank .start)

/-- The graph with one more node, whose number is the size of the graph before. -/
def add (g : Graph) (node : Node) : Graph := ⟨g.nodes.push node⟩

def modify (g : Graph) (id : Nat) (change : Node → Node) : Graph := ⟨g.nodes.modify id change⟩

def setContent (g : Graph) (id : Nat) (content : Content) : Graph :=
  g.modify id fun node => { node with content }

def setTag (g : Graph) (id : Nat) (tag : Tag) : Graph := g.modify id fun node => { node with tag }

/-- The entries of a mapping; another node has none. -/
def entries (g : Graph) (id : Nat) : List (Nat × Nat) :=
  match (g.node id).content with
  | .map entries => entries
  | _ => []

end Graph

end ContractAtlas.Yaml

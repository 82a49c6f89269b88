import ContractAtlas.Yaml.Graph

/-!
Merging. An entry under the sign for merging is taken out of its mapping, and in its place the entries
of the mappings that it names stand in front of those that are written. The mappings named are merged
first, and each of them for good: whoever else names one finds it without such entries. A mapping may
name itself, also by way of others; it then brings in what it holds at the time.
-/
namespace ContractAtlas.Yaml
set_option autoImplicit false

/-- How the mapping with a number is merged. -/
abbrev Merging := Graph → Nat → Except Complaint Graph

namespace Graph

/-- Merges the mappings of a sequence that is named in the mapping at `mark`, and hands back the
entries of each. -/
def entriesOfAll (merging : Merging) (mark : Mark) (g : Graph) :
    List Nat → Except Complaint (Graph × List (List (Nat × Nat)))
  | [] => .ok (g, [])
  | id :: rest =>
    match (g.node id).content with
    | .map _ => do
      let g ← merging g id
      let entries := g.entries id
      let (g, more) ← entriesOfAll merging mark g rest
      return (g, entries :: more)
    | content => .error (.within .mapping mark (.expectedMapping content.formName) (g.node id).mark)

/-- The entries that the node with a number brings into the mapping at `mark`. Of several mappings the
first counts most, so it comes last. -/
def entriesBrought (merging : Merging) (mark : Mark) (g : Graph) (id : Nat) :
    Except Complaint (Graph × List (Nat × Nat)) :=
  match (g.node id).content with
  | .map _ => (merging g id).map fun g => (g, g.entries id)
  | .seq items => (entriesOfAll merging mark g items).map fun (g, parts) => (g, parts.reverse.flatten)
  | content => .error (.within .mapping mark (.expectedMappings content.formName) (g.node id).mark)

/-- Merges the entries that are left of the mapping `id`; `kept` are those that stay, last one first,
and `brought` those that were brought in. If the mapping has named itself on the way, then all that it
holds has been merged by now. A key that is the sign for a default value becomes a text. -/
def mergeFrom (merging : Merging) (id : Nat) (kept brought : List (Nat × Nat)) (g : Graph) :
    List (Nat × Nat) → Except Complaint Graph
  | [] => .ok (g.setContent id (.map (brought ++ kept.reverse)))
  | (key, value) :: rest =>
    match (g.node key).tag with
    | .merge => do
      let left := kept.reverse ++ rest
      let (g, more) ← entriesBrought merging (g.node id).mark (g.setContent id (.map left)) value
      if g.entries id = left then mergeFrom merging id kept (brought ++ more) g rest
      else return g.setContent id (.map (brought ++ more ++ g.entries id))
    | .value => mergeFrom merging id ((key, value) :: kept) brought (g.setTag key .str) rest
    | _ => mergeFrom merging id ((key, value) :: kept) brought g rest

/-- Merges a mapping. Every step inwards takes one of the calls that there is room for. -/
def merge : (room : Nat) → Merging
  | 0, g, id => .error (.bare .tooDeep (g.node id).mark)
  | room + 1, g, id => mergeFrom (merge room) id [] [] g (g.entries id)

end Graph

end ContractAtlas.Yaml

import ContractAtlas.Contract.Extraction
import ContractAtlas.Failure.Basic
import ContractAtlas.Source.Calls

/-!
Extraction where calls have only so much room. It goes through a document in the same way and ends at
the first node that takes more calls than there is room for. Then there is no contract: nodes that are
too deep are not passed over as malformed ones are.
-/
namespace ContractAtlas
set_option autoImplicit false
open Source

namespace Draft

def addMemberOn (s : Stack) (d : Draft) (raw : Json) : Except Failure Draft :=
  if s.holds (memberCalls s.record raw) then .ok (d.addMember raw) else .error .tooDeep

/-- Adopts a contract definition, member by member. -/
def adoptOn (s : Stack) (d : Draft) (c : ContractNode) : Except Failure Draft :=
  c.members.foldlM (addMemberOn s) (d.begin c)

/-- Only a definition that is adopted is gone into. -/
def addNodeOn (s : Stack) (d : Draft) (raw : Json) : Except Failure Draft :=
  match Node.ofJson raw with
  | .error _ => if s.holds (warningCalls raw) then .ok (d.addNode raw) else .error .tooDeep
  | .ok (some (.contract c)) => if d.adopted then .ok (d.addNode raw) else d.adoptOn s c
  | .ok _ => .ok (d.addNode raw)

end Draft

/-- The contract of a document with the notes on it; `path` is where the document comes from. -/
def extract (s : Stack) (path : Option String) (document : Json) :
    Except Failure (Contract × List Note) :=
  if (sourceNodes document).isEmpty then .error (.document ⟨.noSyntaxTree, path⟩)
  else
    ((sourceNodes document).foldlM (Draft.addNodeOn s) (Draft.start document)).map fun d =>
      (d.contract, d.notes)

end ContractAtlas

import ContractAtlas.Explorer.Screen
import ContractAtlas.Workspace.Basic

/-!
The explorer in a workspace: a screen together with what its atlas is built from. Opening it and
refreshing it load the documents from the disk as it is then.
-/
namespace ContractAtlas
set_option autoImplicit false

/-- The main screen, and how its atlas is built. -/
structure ExplorerSession where
  search : Disk.Search
  strict : Bool
  screen : Explorer.Screen

namespace Workspace

/-- Loads an atlas for the explorer. -/
def loadAtlas (w : Workspace) (folder : String) (search : Disk.Search) (strict : Bool) :
    Workspace × Except Failure Atlas :=
  let (w, result, _) := w.build folder search strict
  (w.record (Explorer.Screen.reloadLog result), result)

/-- Opens the explorer on a folder. -/
def openExplorer (w : Workspace) (folder : String) (search : Disk.Search) (strict : Bool) :
    Workspace × ExplorerSession × Except Failure Atlas :=
  let (w, result) := w.loadAtlas folder search strict
  (w, ⟨search, strict, .opened folder result⟩, result)

/-- Loads the documents of the explorer anew. -/
def refreshExplorer (w : Workspace) (e : ExplorerSession) :
    Workspace × ExplorerSession × Except Failure Atlas :=
  let (w, result) := w.loadAtlas e.screen.folder e.search e.strict
  (w, { e with screen := (e.screen.step (.refresh result)).1 }, result)

end Workspace

end ContractAtlas

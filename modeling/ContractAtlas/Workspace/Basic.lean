import ContractAtlas.Atlas.Build
import ContractAtlas.Log.Sinks

/-!
What the program works in: a disk, an environment, and the sinks of its log. Whatever loads documents
also leaves its records with the sinks.
-/
namespace ContractAtlas
set_option autoImplicit false

/-- `stamp` is the time as log lines show it. -/
structure Workspace where
  disk : Disk
  environment : Environment
  sinks : Log.Sinks := {}
  stamp : String

namespace Workspace

/-- Leaves records with the sinks. -/
def record (w : Workspace) (log : List Log.Record) : Workspace :=
  { w with disk := w.sinks.record w.stamp w.disk log }

/-- What the console shows of records. -/
def shown (w : Workspace) (log : List Log.Record) : String := w.sinks.shown w.stamp log

def setUpLog (w : Workspace) (debug : Option Bool) (file : Option String) :
    Workspace × Except Failure Unit :=
  let (disk, sinks, result) := Log.setUp w.disk w.environment w.stamp w.sinks debug file
  ({ w with disk, sinks }, result)

/-- Loads one document. -/
def load (w : Workspace) (path : String) : Workspace × Loading :=
  let loading := loadDocument w.disk (Disk.Path.ofString path)
  (w.record loading.log, loading)

/-- Builds an atlas and hands back its records too. -/
def build (w : Workspace) (folder : String) (search : Disk.Search) (strict : Bool) :
    Workspace × Except Failure Atlas × List Log.Record :=
  let (result, log) := Atlas.build w.disk folder search strict
  (w.record log, result, log)

end Workspace

end ContractAtlas

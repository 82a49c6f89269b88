import ContractAtlas.Atlas.Listing
import ContractAtlas.Contract.Detail
import ContractAtlas.Explorer.Pane
import ContractAtlas.Failure.Basic
import ContractAtlas.Log.Record

/-!
The main screen of the explorer: statistics, a list of contracts, a list of the members of the
selected contract, and a detail text. A load empties the screen and, once it is over, shows what it
brought, or the error it ended with; an unforeseen failure leaves the screen as it was while loading.
What a step does is a function of the screen and of the load's result (`Screen.step`).
-/
namespace ContractAtlas.Explorer
set_option autoImplicit false

/-! ## Statistics -/

def countLines (totals : List (String × Nat)) : List String :=
  (totals.filter fun (_, n) => n ≠ 0).map fun (key, n) =>
    key ++ ": " ++ Text.styled "green" (toString n)

def skippedText (skipped : List Skipped) : String :=
  Text.styled "bold" ("Skipped " ++ toString skipped.length ++ " file(s):") ++ "\n" ++
    joinLines (skipped.map fun s => Text.escape s.text)

/-- The number of contracts, the folder, the totals if any, and the documents skipped if any. -/
def statistics (a : Atlas) (folder : String) : List String :=
  let counts := countLines a.totals
  [toString a.size ++ " contract(s)", Text.styled "dim" (Text.escape folder)] ++
    (if counts.isEmpty then [] else [joinLines counts]) ++
    (if a.skipped.isEmpty then [] else [skippedText a.skipped])

/-! ## The screen -/

inductive ListName where
  | contracts
  | members
  deriving DecidableEq

def emptyDetail : String := "Select a contract to view details"

structure Screen where
  folder : String
  subTitle : String := ""
  atlas : Option Atlas := none
  selected : Option Contract := none
  stats : List String := [loadingNotice]
  contracts : Pane String := { title := "Contracts", placeholder := "No contracts found" }
  members : Pane Member := { title := "Members", placeholder := "Select a contract" }
  detail : String := emptyDetail
  focused : Option ListName := none

/-- A full view of one member that was opened. -/
structure FullView where
  title : String
  text : String
  deriving DecidableEq

namespace Screen

def clearMembers (s : Screen) : Screen := { s with members := s.members.setEntries [] [] }

/-! ## Loading -/

/-- The screen while a load is going on. -/
def loading (s : Screen) : Screen :=
  { s.clearMembers with
    stats := [loadingNotice]
    contracts := s.contracts.notify loadingNotice
    detail := emptyDetail
    selected := none }

/-- Shows an atlas that was loaded. -/
def loaded (s : Screen) (a : Atlas) : Screen :=
  { s with
    atlas := some a
    stats := statistics a s.folder
    contracts := s.contracts.setEntries (a.names.map fun name => { label := name, payload := name }) []
    focused := some .contracts
    subTitle := s.folder }

/-- Shows the error that a load ended with. -/
def failed (s : Screen) (message : String) : Screen :=
  { s with
    atlas := none
    stats := [errorNotice message]
    contracts := s.contracts.notify (errorNotice message)
    subTitle := "Load failed" }

/-- Loads anew: the screen after it. -/
def reload (s : Screen) : Except Failure Atlas → Screen
  | .ok a => s.loading.loaded a
  | .error failure =>
    match failure.report? with
    | some report => s.loading.failed report.text
    | none => s.loading

def failedRecord (report : Report) : Log.Record :=
  ⟨.error, .explorer, "Error parsing contract files: " ++ report.text⟩

/-- What is logged at the end of a load. -/
def reloadLog : Except Failure Atlas → List Log.Record
  | .ok _ => []
  | .error failure => failure.report?.toList.map failedRecord

/-- A new screen after its first load. -/
def opened (folder : String) (result : Except Failure Atlas) : Screen :=
  ({ folder := folder } : Screen).reload result

/-! ## Choosing -/

def memberRows (c : Contract) : List (Row Member) :=
  c.sections.flatMap fun (s, members) =>
    members.map fun m => { label := m.label, payload := m, category := s.key }

def memberCategories (c : Contract) : List Category := c.sections.map fun (s, _) => ⟨s.title, s.key⟩

/-- Opens a contract of the atlas. -/
def openContract (s : Screen) (name : String) : Screen :=
  match s.atlas.bind (·.get? name) with
  | none => s
  | some c =>
    { s with
      selected := some c
      members :=
        (s.members.setTitle ("Members of " ++ c.name)).setEntries (memberRows c) (memberCategories c)
      focused := some .members
      detail := c.summary }

/-- Shows the summary of a contract of the atlas. -/
def showContract (s : Screen) (name : String) : Screen :=
  match s.atlas.bind (·.get? name) with
  | none => s
  | some c => { s with detail := c.summary }

def showMember (s : Screen) (m : Member) : Screen := { s with detail := m.detail }

def fullView (m : Member) : FullView := ⟨m.label, m.detail⟩

def highlight (s : Screen) (list : ListName) (index : Nat) : Screen :=
  match list with
  | .contracts => ((s.contracts.choose? index).map s.showContract).getD s
  | .members => ((s.members.choose? index).map s.showMember).getD s

def select (s : Screen) (list : ListName) (index : Nat) : Screen × Option FullView :=
  match list with
  | .contracts => (((s.contracts.choose? index).map s.openContract).getD s, none)
  | .members => (s, (s.members.choose? index).map fullView)

/-- Leaves the members and goes back to the contracts. -/
def back (s : Screen) : Screen :=
  if s.selected.isNone then s
  else
    { s with
      selected := none
      members := (s.members.setTitle "Members").setEntries [] []
      focused := some .contracts }

/-! ## Steps -/

/-- What can happen to the screen; a refresh comes with the result of its load. -/
inductive Action where
  | highlight (list : ListName) (index : Nat)
  | select (list : ListName) (index : Nat)
  | filter (key : String)
  | back
  | refresh (result : Except Failure Atlas)

/-- The screen after an action, and the full view that it opened, if any. -/
def step (s : Screen) : Action → Screen × Option FullView
  | .highlight list index => (s.highlight list index, none)
  | .select list index => s.select list index
  | .filter key => ({ s with members := s.members.choose key }, none)
  | .back => (s.back, none)
  | .refresh result => (s.reload result, none)

end Screen

end ContractAtlas.Explorer

import ContractAtlas.Disk.Operations

/-!
The documents under a folder. Files and subfolders of a folder are visited together in the order of
their names, and a subfolder is gone through where its name falls. Links are not followed: one that
leads to a folder counts as a file. The order in which a folder lists its entries does not matter. A
walk ends early at a subfolder that cannot be listed; the documents before it have been met by then.
Folders are taken to stand no deeper inside one another than there is room for the calls of a walk, one
for each of them.
-/
namespace ContractAtlas.Disk
set_option autoImplicit false

/-- Which files are documents: those with a suffix, in the folder or also below it. No file has the
suffix `none`. -/
structure Search where
  suffix : Option String := some ".json"
  recursive : Bool := true

def Search.accepts (s : Search) (name : String) : Bool := s.suffix == some (Disk.suffix name)

/-! ## Visits -/

/-- What a walk comes upon: a document, or a subfolder that it goes into. -/
inductive Visit where
  | document (place : List String)
  | folder (place : List String)
  deriving DecidableEq

/-- A visit as seen from the folder above. -/
def Visit.under (name : String) : Visit → Visit
  | .document place => .document (name :: place)
  | .folder place => .folder (name :: place)

def nameLE (a b : String × List Visit) : Bool := decide (a.1 ≤ b.1)

mutual

/-- What a walk comes upon below an entry, in order. -/
def Entry.visits (search : Search) : Entry → List Visit
  | .folder entries => ((branches search entries).mergeSort nameLE).flatMap (·.2)
  | _ => []

/-- What each entry of a folder contributes, next to its name. -/
def branches (search : Search) : List (String × Entry) → List (String × List Visit)
  | [] => []
  | (name, .folder entries) :: rest =>
    let below :=
      if search.recursive then .folder [] :: (Entry.folder entries).visits search else []
    (name, below.map (Visit.under name)) :: branches search rest
  | (name, _) :: rest =>
    (name, if search.accepts name then [.document [name]] else []) :: branches search rest

end

/-! ## Walks -/

/-- The documents that a walk came by, in order, and the folder that it could not go into, if it ended
at one. -/
structure Walk where
  documents : List Path
  blocked : Option Path

/-- A folder can be listed unless its path is too long. -/
def canList (p : Path) : Bool := p.text.utf8ByteSize ≤ pathLimit

/-- Goes from a folder along visits, as far as the subfolders can be listed. -/
def Walk.along (folder : Path) : List Visit → Walk
  | [] => ⟨[], none⟩
  | .document place :: rest =>
    let walk := along folder rest
    { walk with documents := folder.append place :: walk.documents }
  | .folder place :: rest =>
    if canList (folder.append place) then along folder rest else ⟨[], some (folder.append place)⟩

/-- The walk through a folder; `none` if there is no folder at the path. -/
def walk? (d : Disk) (folder : Path) (search : Search) : Option Walk :=
  (d.folder? folder).map fun entries => .along folder ((Entry.folder entries).visits search)

end ContractAtlas.Disk

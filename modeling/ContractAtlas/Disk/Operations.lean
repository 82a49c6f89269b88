import ContractAtlas.Disk.Tree

/-!
What can be done with a disk: reading, asking what is there, and changing it. A change hands back the
new disk; where it fails the disk is as it was, but for the folders made on the way (`makeFolders`).
-/
namespace ContractAtlas.Disk
set_option autoImplicit false

/-! ## Reading -/

def read (d : Disk) (p : Path) : Except Fault (List UInt8) :=
  match d.locate .goal p with
  | .error fault => .error fault
  | .ok found =>
    match found.entry with
    | some (.file _ content) => .ok content
    | some _ => .error .isDirectory
    | none => .error .notFound

/-- Whether a test holds of what is at a path. Faults that mean absence are no faults here. -/
def ask (d : Disk) (p : Path) (test : Entry → Bool) : Except Fault Bool :=
  match d.locate .goal p with
  | .ok found => .ok (found.entry.any test)
  | .error fault => if fault.meansAbsent then .ok false else .error fault

def exists? (d : Disk) (p : Path) : Except Fault Bool := d.ask p fun _ => true

def isFolder? (d : Disk) (p : Path) : Except Fault Bool := d.ask p Entry.isFolder

/-- The folder at a path, its last link followed. -/
def folder? (d : Disk) (p : Path) : Option (List (String × Entry)) :=
  match d.locate .goal p with
  | .ok ⟨_, some (.folder entries)⟩ => some entries
  | _ => none

/-! ## Folders -/

/-- Makes one folder; its parent must be there and its name must be free. -/
def makeFolder (d : Disk) (p : Path) : Except Fault Disk :=
  match d.locate .itself p with
  | .error fault => .error fault
  | .ok ⟨_, some _⟩ => .error .exists
  | .ok ⟨place, none⟩ => .ok { d with root := d.root.setAt (some (.folder [])) place }

/-- A fault met while making a folder does not count where there is one; where that cannot be told
the reason why counts instead. -/
def excuse (d : Disk) (p : Path) (fault : Fault) : Except Fault Disk :=
  match d.isFolder? p with
  | .ok true => .ok d
  | .ok false => .error fault
  | .error reason => .error reason

/-- Makes a folder that may be there already. -/
def makeFolderIfMissing (d : Disk) (p : Path) : Except Fault Disk :=
  match d.makeFolder p with
  | .ok d => .ok d
  | .error fault => d.excuse p fault

/-- Makes the folder that the first `count` components of a path name, with its parents. Returns the
disk with what could be made, and the fault that stopped it, if any. -/
def makeFolders (d : Disk) (root : String) (parts : List String) : Nat → Disk × Option Fault
  | 0 =>
    match d.makeFolderIfMissing ⟨root, []⟩ with
    | .ok d => (d, none)
    | .error fault => (d, some fault)
  | count + 1 =>
    let p : Path := ⟨root, parts.take (count + 1)⟩
    match d.makeFolder p with
    | .ok d => (d, none)
    | .error .notFound =>
      match d.makeFolders root parts count with
      | (d, some fault) => (d, some fault)
      | (d, none) =>
        match d.makeFolderIfMissing p with
        | .ok d => (d, none)
        | .error fault => (d, some fault)
    | .error fault =>
      match d.excuse p fault with
      | .ok d => (d, none)
      | .error fault => (d, some fault)

/-- Makes a folder and its parents as far as they are missing. -/
def makePath (d : Disk) (p : Path) : Disk × Option Fault :=
  d.makeFolders p.root p.parts p.parts.length

/-! ## Files -/

/-- Opens a file for writing, making it if it is missing: its number and, if it is new, the disk
with it. What is in the file stays. -/
def openFile (d : Disk) (p : Path) : Except Fault (Disk × List String × Nat) :=
  match d.locate .creation p with
  | .error fault => .error fault
  | .ok ⟨place, some (.file id _)⟩ => .ok (d, place, id)
  | .ok ⟨_, some _⟩ => .error .isDirectory
  | .ok ⟨place, none⟩ =>
    .ok ({ d with root := d.root.setAt (some (.file d.nextId [])) place, nextId := d.nextId + 1 },
      place, d.nextId)

/-- Writes a file anew. -/
def write (d : Disk) (p : Path) (content : List UInt8) : Except Fault Disk :=
  match d.openFile p with
  | .error fault => .error fault
  | .ok (d, place, id) => .ok { d with root := d.root.setAt (some (.file id content)) place }

/-- Adds octets to an open file. If the file has been removed nothing is left to see of them. -/
def append (d : Disk) (id : Nat) (octets : List UInt8) : Disk :=
  { d with root := d.root.appendTo id octets }

/-! ## Links and removal -/

def makeLink (d : Disk) (p : Path) (target : String) : Except Fault Disk :=
  if holdsNull target ∨ p.hasNull then .error .nullInPath
  else if target = "" then .error .notFound
  else if pathLimit < target.utf8ByteSize then .error .nameTooLong
  else match d.locate .itself p with
  | .error fault => .error fault
  | .ok ⟨_, some _⟩ => .error .exists
  | .ok ⟨place, none⟩ => .ok { d with root := d.root.setAt (some (.link target)) place }

/-- Removes a file, a link, or a folder with all that is in it. -/
def remove (d : Disk) (p : Path) : Except Fault Disk :=
  match d.locate .itself p with
  | .error fault => .error fault
  | .ok ⟨_, none⟩ => .error .notFound
  | .ok ⟨place, some _⟩ => .ok { d with root := d.root.setAt none place }

end ContractAtlas.Disk

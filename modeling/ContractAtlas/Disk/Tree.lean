import ContractAtlas.Disk.Path

/-!
A disk as a value: a tree of folders, files and symbolic links, and the folder that relative paths
start from. A file carries a number of its own, so that an open file is still known after its name
has changed hands. Finding what a path names follows links as far as `linkLimit`; what can go wrong
is a `Fault`.
-/
namespace ContractAtlas.Disk
set_option autoImplicit false

/-! ## Faults -/

inductive Fault where
  | notFound
  | notDirectory
  | isDirectory
  | exists
  | tooManyLinks
  | nameTooLong
  | nullInPath
  deriving DecidableEq

def Fault.text : Fault → String
  | .notFound => "No such file or directory"
  | .notDirectory => "Not a directory"
  | .isDirectory => "Is a directory"
  | .exists => "File exists"
  | .tooManyLinks => "Too many levels of symbolic links"
  | .nameTooLong => "File name too long"
  | .nullInPath => "embedded null byte"

/-- Faults that only mean that there is nothing at the path. -/
def Fault.meansAbsent : Fault → Bool
  | .notFound | .notDirectory | .tooManyLinks | .nullInPath => true
  | _ => false

/-! ## Trees -/

inductive Entry where
  | file (id : Nat) (content : List UInt8)
  | link (target : String)
  | folder (entries : List (String × Entry))

namespace Entry

def entries : Entry → List (String × Entry)
  | .folder entries => entries
  | _ => []

def isFolder : Entry → Bool
  | .folder _ => true
  | _ => false

/-- The entry at a place below this one; links are not followed. -/
def at? : Entry → List String → Option Entry
  | entry, [] => some entry
  | entry, name :: rest =>
    match entry.entries.lookup name with
    | some inner => inner.at? rest
    | none => none

/-- Puts, replaces or takes away (`none`) the entry of a name. -/
def setName (name : String) (entry : Option Entry) : List (String × Entry) → List (String × Entry)
  | [] => entry.toList.map (name, ·)
  | (n, e) :: rest =>
    if n = name then entry.toList.map (name, ·) ++ rest else (n, e) :: setName name entry rest

/-- Puts, replaces or takes away the entry at a place whose folder is there. -/
def setAt (entry : Option Entry) : List String → Entry → Entry
  | [], old => entry.getD old
  | [name], .folder entries => .folder (setName name entry entries)
  | name :: rest, .folder entries =>
    .folder (entries.map fun (n, e) => if n = name then (n, setAt entry rest e) else (n, e))
  | _, old => old

mutual

/-- Adds octets to the end of the file with a number, wherever it is. -/
def appendTo (id : Nat) (octets : List UInt8) : Entry → Entry
  | .file i content => .file i (if i = id then content ++ octets else content)
  | .link target => .link target
  | .folder entries => .folder (appendToAll id octets entries)

def appendToAll (id : Nat) (octets : List UInt8) : List (String × Entry) → List (String × Entry)
  | [] => []
  | (name, entry) :: rest => (name, appendTo id octets entry) :: appendToAll id octets rest

end

end Entry

/-! ## Finding entries -/

def linkLimit : Nat := 40

/-- The longest name of an entry, in octets. -/
def nameLimit : Nat := 255

/-- The longest path, in octets. -/
def pathLimit : Nat := 4095

/-- A place, and what is there: nothing, if only the last name of the path is missing. -/
structure Found where
  place : List String
  entry : Option Entry

/-- How the last name of a path is taken: as it stands, even if it is a link; as what it leads to; or
as the name of a file that is made if it is missing. -/
inductive Approach where
  | itself
  | goal
  | creation
  deriving DecidableEq

/-- The components of a link's target. A dot or a slash at its end is kept as one more, a dot or an
empty one, which only a folder has. -/
def goalParts (target : String) : List String :=
  let pieces := (Text.pieces '/' target.toList).map String.ofList
  let last := if (pieces.filter (· ≠ "")).getLast? = some "." then ["."] else pieces.getLast?.toList
  components target ++ last.filter fun part => part = "" ∨ part = "."

/-- Walks from the folder at `here` along `parts`. At most `links` more links are followed. No file is
made behind a name that a slash follows. -/
def find (root : Entry) (approach : Approach) (links : Nat) (here parts : List String) :
    Except Fault Found :=
  match parts with
  | [] => .ok ⟨here, root.at? here⟩
  | ".." :: rest => find root approach links here.dropLast rest
  | "." :: rest | "" :: rest => find root approach links here rest
  | name :: rest =>
    let place := here ++ [name]
    if approach = .creation ∧ rest = [""] then .error .isDirectory
    else if nameLimit < name.utf8ByteSize then .error .nameTooLong
    else match root.at? place with
    | none => if rest.isEmpty then .ok ⟨place, none⟩ else .error .notFound
    | some (.file id content) =>
      if rest.isEmpty then .ok ⟨place, some (.file id content)⟩ else .error .notDirectory
    | some (.folder entries) =>
      if rest.isEmpty then .ok ⟨place, some (.folder entries)⟩
      else find root approach links place rest
    | some (.link target) =>
      if rest.isEmpty ∧ approach = .itself then .ok ⟨place, some (.link target)⟩
      else match links with
      | 0 => .error .tooManyLinks
      | links + 1 =>
        find root approach links (if (Path.ofString target).isAbsolute then [] else here)
          (goalParts target ++ rest)
termination_by (links, parts.length)

/-! ## Disks -/

end Disk

open Disk in
/-- A tree, the place of the current folder, and the number for the next new file. -/
structure Disk where
  root : Entry
  here : List String
  nextId : Nat

namespace Disk

/-- A disk with an empty current folder. -/
def fresh : Disk where
  root := .folder [("tmp", .folder [("session", .folder [])])]
  here := ["tmp", "session"]
  nextId := 0

def locate (d : Disk) (approach : Approach) (p : Path) : Except Fault Found :=
  if p.hasNull then .error .nullInPath
  else if pathLimit < p.text.utf8ByteSize then .error .nameTooLong
  else find d.root approach linkLimit (if p.isAbsolute then [] else d.here) p.parts

end ContractAtlas.Disk

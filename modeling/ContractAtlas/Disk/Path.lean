import ContractAtlas.Text.Pieces

/-!
Paths as text. A path is normalised on the way in: repeated and trailing slashes and `.` components
are dropped, while `..` is kept, since only the disk knows where it leads. The empty path is `.`.
-/
namespace ContractAtlas.Disk
set_option autoImplicit false

/-! ## Components -/

/-- The components of a path; slashes in a row and single dots separate nothing. -/
def components (s : String) : List String :=
  ((Text.pieces '/' s.toList).map String.ofList).filter fun part => part ≠ "" ∧ part ≠ "."

/-- The leading slashes that count: none, one, or exactly two; more than two are one. -/
def rootOf (cs : List Char) : String :=
  match cs with
  | '/' :: '/' :: '/' :: _ => "/"
  | '/' :: '/' :: _ => "//"
  | '/' :: _ => "/"
  | _ => ""

def holdsNull (s : String) : Bool := s.toList.contains '\x00'

structure Path where
  root : String
  parts : List String
  deriving DecidableEq

namespace Path

def ofString (s : String) : Path := ⟨rootOf s.toList, components s⟩

def text (p : Path) : String :=
  if p.root = "" ∧ p.parts = [] then "." else p.root ++ String.intercalate "/" p.parts

def isAbsolute (p : Path) : Bool := p.root ≠ ""

def child (p : Path) (name : String) : Path := ⟨p.root, p.parts ++ [name]⟩

def parent (p : Path) : Path := ⟨p.root, p.parts.dropLast⟩

/-- The path with the components of a relative path added. -/
def append (p : Path) (parts : List String) : Path := ⟨p.root, p.parts ++ parts⟩

/-- Whether the path holds the character with number zero, which no path may hold. -/
def hasNull (p : Path) : Bool := p.parts.any holdsNull

end Path

/-! ## Suffixes -/

/-- The suffix of a file name: from its last dot on, unless that is its first or last character. -/
def suffix (name : String) : String :=
  let cs := name.toList
  let tail := (cs.reverse.takeWhile (· != '.')).reverse
  let before := cs.length - tail.length
  if tail.isEmpty ∨ before ≤ 1 then "" else String.ofList ('.' :: tail)

/-! ## Lexical places -/

/-- Takes one component of an absolute path without asking the disk: `..` goes to the parent. -/
def stepLexically (place : List String) (part : String) : List String :=
  if part = ".." then place.dropLast else place ++ [part]

/-- The absolute place a path names lexically, seen from `here`. -/
def Path.lexical (here : List String) (p : Path) : List String :=
  p.parts.foldl stepLexically (if p.isAbsolute then [] else here)

/-- Drops the components that two places have in common at their start. -/
def dropCommon : List String → List String → List String × List String
  | a :: as, b :: bs => if a = b then dropCommon as bs else (a :: as, b :: bs)
  | as, bs => (as, bs)

/-- The text of an absolute place seen from `here`. -/
def relativeText (here place : List String) : String :=
  let (up, down) := dropCommon here place
  let parts := up.map (fun _ => "..") ++ down
  if parts = [] then "." else String.intercalate "/" parts

end ContractAtlas.Disk

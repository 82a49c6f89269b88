import ContractAtlas.Disk.Path
import ContractAtlas.Failure.Basic
import ContractAtlas.Settings.Environment

/-!
Where the program keeps its own files: a folder under the home folder, unless a variable names another
one. A tilde at the beginning of that path stands for the home folder, and one with a name behind it for
the home folder of that user.
-/
namespace ContractAtlas
set_option autoImplicit false
open Disk

/-! ## Home -/

/-- A text without the slashes at its end. -/
def dropSlashes (s : String) : String :=
  String.ofList (s.toList.reverse.dropWhile (· == '/')).reverse

/-- A home folder as it takes the place of a tilde; one of nothing but slashes is the root. -/
def homeText (home : String) : String :=
  let text := dropSlashes home
  if text = "" then "/" else text

/-- Whether a text begins with a tilde. -/
def hasTilde (s : String) : Bool := s.toList.head? == some '~'

/-- The path with a tilde at its beginning replaced. A user must have a home folder, and not one that
begins with a tilde itself. -/
def expandHome (env : Environment) (p : Path) : Except Failure Path :=
  match p.isAbsolute, p.parts with
  | false, first :: rest =>
    if hasTilde first then
      match (env.homeOf? (String.ofList first.toList.tail)).map homeText with
      | some home => if hasTilde home then .error .noHome else .ok ((Path.ofString home).append rest)
      | none => .error .noHome
    else .ok p
  | _, _ => .ok p

/-! ## Places -/

def defaultDataPath (env : Environment) : Path := (Path.ofString env.home).child ".solexplorer"

def dataPath (env : Environment) : Except Failure Path :=
  match env.value? dataPathVariable with
  | some text => expandHome env (Path.ofString text)
  | none => .ok (defaultDataPath env)

def configurationPath (env : Environment) : Except Failure Path :=
  (dataPath env).map (·.child "config.yaml")

end ContractAtlas

/-!
The environment of a run: variables with their values, the home folder known since the program started,
the home folders of the users of the system, and how many calls may stand on one another. A variable
with an empty value counts as not set wherever the program reads one.
-/
namespace ContractAtlas
set_option autoImplicit false

/-- How many calls may stand on one another before the program is told that they are too deep: a
thousand, less those that stand below any reading. -/
def usualRoom : Nat := 960

/-- The user without a name is the one who runs the program. -/
structure Environment where
  home : String
  values : List (String × String) := []
  users : List (String × String) := []
  room : Nat := usualRoom

namespace Environment

def get? (env : Environment) (name : String) : Option String := env.values.lookup name

/-- The value of a variable that is set and not empty. -/
def value? (env : Environment) (name : String) : Option String := (env.get? name).filter (· ≠ "")

/-- The home folder of a user. A variable may name that of the user who runs the program. -/
def homeOf? (env : Environment) (user : String) : Option String :=
  if user = "" then env.get? "HOME" <|> env.users.lookup user else env.users.lookup user

def unset (env : Environment) (name : String) : Environment :=
  { env with values := env.values.filter (·.1 ≠ name) }

def set (env : Environment) (name value : String) : Environment :=
  { env with values := (name, value) :: (env.unset name).values }

/-- Why a variable cannot be set. -/
inductive Refusal where
  | null
  | equalsSign
  | noName
  deriving DecidableEq

def Refusal.text : Refusal → String
  | .null => "embedded null byte"
  | .equalsSign => "illegal environment variable name"
  | .noName => "Invalid argument"

/-- Sets a variable, whose name is not empty and holds no equals sign. -/
def set? (env : Environment) (name value : String) : Except Refusal Environment :=
  if name.toList.contains '\x00' || value.toList.contains '\x00' then .error .null
  else if name.toList.contains '=' then .error .equalsSign
  else if name = "" then .error .noName
  else .ok (env.set name value)

end Environment

/-! ## Variables of the program -/

def dataPathVariable : String := "SOLEXPLORER_DATA_PATH"

def dataFolderVariable : String := "SOLEXPLORER_DATA_FOLDER"

def strictVariable : String := "SOLEXPLORER_STRICT"

def debugVariable : String := "SOLEXPLORER_DEBUG"

def logFileVariable : String := "SOLEXPLORER_LOG_FILE"

end ContractAtlas

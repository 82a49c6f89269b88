import ContractAtlas.Text.Quoted

/-!
The options of the command line, its usage and help texts, and how it is misused. Every option is a
flag; the one argument that is no option is the folder.
-/
namespace ContractAtlas.Command
set_option autoImplicit false

/-! ## Flags -/

inductive Flag where
  | help
  | noRecursive
  | lenient
  | debug
  | list
  | initConfig
  deriving DecidableEq

namespace Flag

def all : List Flag := [.help, .noRecursive, .lenient, .debug, .list, .initConfig]

def spellings : Flag → List String
  | .help => ["-h", "--help"]
  | .noRecursive => ["--no-recursive"]
  | .lenient => ["--lenient"]
  | .debug => ["--debug"]
  | .list => ["--list"]
  | .initConfig => ["--init-config"]

/-- Every spelling with its flag, in the order in which options are listed. -/
def table : List (String × Flag) := all.flatMap fun flag => flag.spellings.map (·, flag)

def ofSpelling? (spelling : String) : Option Flag := table.lookup spelling

/-- How messages call a flag. -/
def title (flag : Flag) : String := String.intercalate "/" flag.spellings

end Flag

/-! ## Options -/

structure Options where
  folder : Option String := none
  noRecursive : Bool := false
  lenient : Bool := false
  debug : Bool := false
  list : Bool := false
  initConfig : Bool := false
  deriving DecidableEq

/-- Sets a flag. Asking for help is no setting. -/
def Options.set (o : Options) : Flag → Options
  | .help => o
  | .noRecursive => { o with noRecursive := true }
  | .lenient => { o with lenient := true }
  | .debug => { o with debug := true }
  | .list => { o with list := true }
  | .initConfig => { o with initConfig := true }

/-! ## Misuse -/

inductive Misuse where
  | ambiguous (word : String) (matching : List String)
  | attached (flag : Flag) (value : String)
  | unrecognized (words : List String)
  deriving DecidableEq

def Misuse.text : Misuse → String
  | .ambiguous word matching =>
    "ambiguous option: " ++ word ++ " could match " ++ String.intercalate ", " matching
  | .attached flag value =>
    "argument " ++ flag.title ++ ": ignored explicit argument " ++ Text.quoted value
  | .unrecognized words => "unrecognized arguments: " ++ String.intercalate " " words

/-! ## Texts -/

def usage : String := "usage: solexplorer [-h] [--no-recursive] [--lenient] [--debug] [--list]
                   [--init-config]
                   [folder]
"

def help : String := usage ++ "
Explore Solidity contracts from compiler AST output

positional arguments:
  folder          Folder of AST documents (default: data_folder from config)

options:
  -h, --help      show this help message and exit
  --no-recursive  Only load documents directly inside the folder
  --lenient       Skip unreadable or malformed documents instead of aborting
  --debug         Enable debug logging
  --list          Print the loaded contracts and exit instead of opening the
                  explorer
  --init-config   Write a default config.yaml and exit
"

/-- What is shown on a misuse. -/
def Misuse.message (m : Misuse) : String := usage ++ "solexplorer: error: " ++ m.text ++ "\n"

end ContractAtlas.Command

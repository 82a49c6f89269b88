import ContractAtlas.Text.Pieces
import ContractAtlas.Yaml.Timestamp

/-!
Tags: what kind of value a node stands for. A plain scalar without a tag of its own is classed by its
spelling (`Tag.ofPlain`): a word for a truth value or for nothing, a number, a date, one of the signs
for merging and for a default value, and else a text.
-/
namespace ContractAtlas.Yaml
set_option autoImplicit false

/-! ## Tags -/

inductive Tag where
  | null
  | bool
  | int
  | float
  | timestamp
  | merge
  | value
  | str
  | binary
  | seq
  | omap
  | pairs
  | set
  | map
  | other (name : String)
  deriving DecidableEq

namespace Tag

/-- What the names of the common tags begin with. -/
def common : String := "tag:yaml.org,2002:"

def name : Tag → String
  | .null => common ++ "null"
  | .bool => common ++ "bool"
  | .int => common ++ "int"
  | .float => common ++ "float"
  | .timestamp => common ++ "timestamp"
  | .merge => common ++ "merge"
  | .value => common ++ "value"
  | .str => common ++ "str"
  | .binary => common ++ "binary"
  | .seq => common ++ "seq"
  | .omap => common ++ "omap"
  | .pairs => common ++ "pairs"
  | .set => common ++ "set"
  | .map => common ++ "map"
  | .other name => name

def known : List Tag := [
  .null, .bool, .int, .float, .timestamp, .merge, .value, .str, .binary, .seq, .omap, .pairs, .set,
  .map]

def ofName (name : String) : Tag := (known.find? (·.name == name)).getD (.other name)

end Tag

/-! ## Words -/

/-- The words for truth values, in the spellings that are taken as such. -/
def boolWords : List (String × Bool) := [
  ("yes", true), ("Yes", true), ("YES", true), ("no", false), ("No", false), ("NO", false),
  ("true", true), ("True", true), ("TRUE", true), ("false", false), ("False", false),
  ("FALSE", false), ("on", true), ("On", true), ("ON", true), ("off", false), ("Off", false),
  ("OFF", false)]

def nullWords : List String := ["~", "null", "Null", "NULL"]

def signWords : List String := ["!", "&", "*"]

/-! ## Numbers -/

def isDigitOrUnderscore (c : Char) : Bool := isDigit c || c == '_'

/-- The text without its sign. -/
def dropSign (cs : List Char) : List Char :=
  match cs with
  | '+' :: rest | '-' :: rest => rest
  | cs => cs

/-- A digit and further digits and underscores. -/
def isDigitRun (cs : List Char) : Bool :=
  match cs with
  | c :: rest => isDigit c && rest.all isDigitOrUnderscore
  | [] => false

/-- A part of a number to the base 60: one digit, or two of which the first is at most five. -/
def isSixtieth (cs : List Char) : Bool :=
  match cs with
  | [c] => isDigit c
  | [c, d] => '0' ≤ c && c ≤ '5' && isDigit d
  | _ => false

/-- Digits of a base behind its sign, of which there is at least one, or underscores. -/
def isBasedRun (isDigit : Char → Bool) (cs : List Char) : Bool :=
  !cs.isEmpty && cs.all fun c => isDigit c || c == '_'

/-- An integer to the base 2, 16, 8, 10 or 60, without its sign. -/
def isInteger (cs : List Char) : Bool :=
  match cs with
  | '0' :: 'b' :: digits => isBasedRun (fun c => c == '0' || c == '1') digits
  | '0' :: 'x' :: digits => isBasedRun isHexDigit digits
  | '0' :: digits => digits.all fun c => ('0' ≤ c && c ≤ '7') || c == '_'
  | cs =>
    match Text.pieces ':' cs with
    | first :: more => isDigitRun first && more.all isSixtieth
    | [] => false

/-- Nothing, or an exponent with its sign. -/
def isExponent (cs : List Char) : Bool :=
  match cs with
  | [] => true
  | e :: sign :: digits =>
    (e == 'e' || e == 'E') && (sign == '+' || sign == '-') && !digits.isEmpty && digits.all isDigit
  | _ => false

/-- Digits and underscores, and perhaps an exponent. -/
def isFraction (cs : List Char) : Bool := isExponent (cs.dropWhile isDigitOrUnderscore)

def infinityWords : List String := [".inf", ".Inf", ".INF"]

def nanWords : List String := [".nan", ".NaN", ".NAN"]

/-- A float with a digit before its point, perhaps to the base 60, without its sign. -/
def isPointed (cs : List Char) : Bool :=
  let whole := cs.takeWhile (· != '.')
  match cs.dropWhile (· != '.') with
  | [] => false
  | _ :: fraction =>
    match Text.pieces ':' whole with
    | [digits] => isDigitRun digits && isFraction fraction
    | first :: more => isDigitRun first && more.all isSixtieth && fraction.all isDigitOrUnderscore
    | [] => false

def isFloat (cs : List Char) : Bool :=
  let startsWithPoint :=
    match cs with
    | '.' :: d :: rest => isDigit d && isFraction rest
    | _ => false
  startsWithPoint || isPointed (dropSign cs) ||
  infinityWords.contains (String.ofList (dropSign cs)) || nanWords.contains (String.ofList cs)

/-! ## Plain scalars -/

/-- The tag of the signs that stand for anchors, aliases and tags; nothing is made of such a node. -/
def Tag.sign : Tag := .other (Tag.common ++ "yaml")

/-- The text without a line feed at its end, which does not count for the spelling. -/
def spellingOf (s : String) : String :=
  if s.toList.getLast? = some '\n' then String.ofList s.toList.dropLast else s

/-- The tag of a text that is not empty. -/
def Tag.ofSpelling (s : String) : Tag :=
  if (boolWords.lookup s).isSome then .bool
  else if isFloat s.toList then .float
  else if isInteger (dropSign s.toList) then .int
  else if s = "<<" then .merge
  else if nullWords.contains s then .null
  else if isTimestamp s.toList then .timestamp
  else if s = "=" then .value
  else if signWords.contains s then .sign
  else .str

def Tag.ofPlain (s : String) : Tag := if s = "" then .null else .ofSpelling (spellingOf s)

end ContractAtlas.Yaml

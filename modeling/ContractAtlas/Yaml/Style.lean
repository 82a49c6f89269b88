import ContractAtlas.Decimal.Shortest
import ContractAtlas.Json.Value
import ContractAtlas.Yaml.Tag

/-!
How a scalar is written. A plain spelling is chosen where it reads back as the same value, single
quotes where nothing needs an escape, and double quotes for the rest. Everything outside printable
ASCII needs an escape.
-/
namespace ContractAtlas.Yaml
set_option autoImplicit false

/-! ## Spellings -/

/-- The spelling of a float: with a point, even before an exponent. -/
def floatSpelling (x : Binary64) : String :=
  if x.isNaN then ".nan"
  else if x.isInfinite then (if x.isNegative then "-.inf" else ".inf")
  else
    let text := x.text.toList
    if text.contains '.' then String.ofList text
    else String.ofList (text.flatMap fun c => if c = 'e' then ".0e".toList else [c])

/-- The tag and the spelling of a scalar; a collection has none. -/
def scalarSpelling? : Json → Option (Tag × String)
  | .null => some (.null, "null")
  | .bool b => some (.bool, if b then "true" else "false")
  | .int n => some (.int, toString n)
  | .float x => some (.float, floatSpelling x)
  | .str s => some (.str, s)
  | .arr _ | .obj _ => none

/-! ## Analysis -/

/-- Whether a character can only be written by an escape. -/
def needsEscape (c : Char) : Bool := !(c == '\n' || (' ' ≤ c && c ≤ '~'))

/-- Whether two characters stand next to each other somewhere. -/
def hasPair (first second : Char) : List Char → Bool
  | a :: b :: rest => (a == first && b == second) || hasPair first second (b :: rest)
  | _ => false

/-- Whether a colon before a blank or at the end, or a number sign after a blank, stands behind the
first character. -/
def hasInnerSign : List Char → Bool
  | a :: b :: rest =>
    (b == ':' && endsWord (rest.headD endMark)) || (b == '#' && endsWord a) || hasInnerSign (b :: rest)
  | _ => false

/-- Whether a text begins like something else than a plain scalar. -/
def beginsOtherwise (cs : List Char) : Bool :=
  match cs with
  | [] => false
  | c :: rest =>
    "#,[]\x7b\x7d&*!|>'\"%@\x60".toList.contains c ||
    ((c == '?' || c == ':' || c == '-') && endsWord (rest.headD endMark)) ||
    cs.take 3 == ['-', '-', '-'] || cs.take 3 == ['.', '.', '.']

/-- Whether a character makes the text that holds it a text of several lines. A carriage return does
not: it is always written by an escape. -/
def partsLines (c : Char) : Bool := c != '\r' && isBreak c

def isSpaceOrBreak (c : Char) : Bool := c == ' ' || partsLines c

/-- Whether a text may stand without quotes in a block collection. -/
def allowsPlain (cs : List Char) : Bool :=
  !((cs.head?.any isSpaceOrBreak) || (cs.getLast?.any isSpaceOrBreak) || cs.any needsEscape ||
    cs.contains '\n' || beginsOtherwise cs || hasInnerSign cs)

/-- Whether a text may stand in single quotes. -/
def allowsSingle (cs : List Char) : Bool :=
  !(cs.any needsEscape || hasPair ' ' '\n' cs || hasPair '\n' ' ' cs)

/-! ## The choice -/

inductive Style where
  | plain
  | single
  | double
  deriving DecidableEq

/-- The style of a scalar; `key` tells whether it is a key that must stay on its line. -/
def styleOf (key : Bool) (tag : Tag) (spelling : String) : Style :=
  let cs := spelling.toList
  let broken := key && cs.any partsLines
  if Tag.ofPlain spelling = tag ∧ !(key && cs.isEmpty) ∧ !broken ∧ allowsPlain cs then .plain
  else if allowsSingle cs ∧ !broken then .single
  else .double

/-- The letter that stands for a character after a backslash. -/
def escapeLetter? (c : Char) : Option Char :=
  [('\x00', '0'), ('\x07', 'a'), ('\x08', 'b'), ('\t', 't'), ('\n', 'n'), ('\x0b', 'v'),
    ('\x0c', 'f'), ('\r', 'r'), ('\x1b', 'e'), ('"', '"'), ('\\', '\\'), ('\x85', 'N'),
    ('\xa0', '_'), ('\u2028', 'L'), ('\u2029', 'P')].lookup c

/-- How a character is written between double quotes, if not as it is. -/
def escapeOf? (c : Char) : Option (List Char) :=
  match escapeLetter? c with
  | some letter => some ['\\', letter]
  | none =>
    let digits (width : Nat) : List Char := (Text.hexDigits width c.toNat).map Char.toUpper
    if ' ' ≤ c ∧ c ≤ '~' then none
    else if c.toNat ≤ 0xFF then some ('\\' :: 'x' :: digits 2)
    else if c.toNat ≤ 0xFFFF then some ('\\' :: 'u' :: digits 4)
    else some ('\\' :: 'U' :: digits 8)

end ContractAtlas.Yaml

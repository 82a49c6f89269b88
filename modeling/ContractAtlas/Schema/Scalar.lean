import ContractAtlas.Json.Value
import ContractAtlas.Text.Blank
import ContractAtlas.Text.Pieces

/-!
Scalar fields and the values they take. A text is taken as it is. A flag may also be given as one of
the words in `flagWords` or as zero or one, a whole number as a float without fraction, a flag, or a
text in decimal (`wholeText?`); a value that cannot be taken names the cause.
-/
namespace ContractAtlas.Schema
set_option autoImplicit false

/-! ## Causes -/

/-- Why a value does not fit. -/
inductive Cause where
  | notText
  | notFlag
  | noFlagValue
  | notWhole
  | noWholeText
  | fraction
  | notFinite
  | tooLarge
  | notList
  | notRecord
  deriving DecidableEq

def Cause.name : Cause → String
  | .notText => "string_type"
  | .notFlag => "bool_type"
  | .noFlagValue => "bool_parsing"
  | .notWhole => "int_type"
  | .noWholeText => "int_parsing"
  | .fraction => "int_from_float"
  | .notFinite => "finite_number"
  | .tooLarge => "int_parsing_size"
  | .notList => "list_type"
  | .notRecord => "model_type"

/-! ## Flags -/

/-- The words for a flag, compared without regard to ASCII case. -/
def flagWords : List (String × Bool) := [
  ("0", false), ("off", false), ("f", false), ("false", false), ("n", false), ("no", false),
  ("1", true), ("on", true), ("t", true), ("true", true), ("y", true), ("yes", true)]

def wordLimit : Int := Nat.pow 2 63

/-- A number as a flag; one that is not a word of 64 bits is not looked at. -/
def flagOfInt (least : Int) (n : Int) : Except Cause Bool :=
  if n = 0 then .ok false
  else if n = 1 then .ok true
  else if least ≤ n ∧ n < wordLimit then .error .noFlagValue
  else .error .notFlag

def flag? : Json → Except Cause Bool
  | .bool b => .ok b
  | .int n => flagOfInt (-wordLimit) n
  | .float x =>
    match x.toInt? with
    | some n => flagOfInt (1 - wordLimit) n
    | none => .error .notFlag
  | .str s =>
    match flagWords.lookup (s.map Char.toLower) with
    | some b => .ok b
    | none => .error .noFlagValue
  | _ => .error .notFlag

/-! ## Whole numbers -/

/-- The largest number of characters of a whole number, its sign included. -/
def wholeTextLimit : Nat := 4300

/-- Digits of which the first is zero only where it stands alone. -/
def isPlainNumber (cs : List Char) : Bool :=
  match cs with
  | [] => false
  | ['0'] => true
  | c :: _ => c != '0' && cs.all Char.isDigit

def ofDigits (cs : List Char) : Nat := cs.foldl (fun n c => n * 10 + (c.toNat - 48)) 0

def plainWhole? (cs : List Char) : Option Int :=
  match cs with
  | '-' :: digits => if isPlainNumber digits then some (-(ofDigits digits : Int)) else none
  | digits => if isPlainNumber digits then some (ofDigits digits) else none

/-- Whether a text begins with a number that has too many characters, whatever follows it. -/
def beginsTooLong (cs : List Char) : Bool :=
  let sign := cs.take 1 == ['-']
  let digits := (if sign then cs.drop 1 else cs).takeWhile Char.isDigit
  digits.head? != some '0' && decide (wholeTextLimit < digits.length + (if sign then 1 else 0))

/-- What remains behind a zero, here `last`, when the zeros and underscores at the beginning of a
number are set aside: all from a hyphen or another digit on, or from the character before a point on;
where nothing else follows, the last character. -/
def afterZero (last : Char) : List Char → Option (List Char)
  | [] => some [last]
  | c :: rest =>
    if c = '0' ∨ c = '_' then afterZero c rest
    else if c = '-' ∨ c.isDigit then some (c :: rest)
    else if c = '.' then some (last :: c :: rest)
    else none

/-- A number without the zeros at its beginning. -/
def dropZeros (cs : List Char) : Option (List Char) :=
  match cs with
  | [] => none
  | c :: rest =>
    if c = '0' then afterZero c rest
    else if c = '-' ∨ c.isDigit then some (c :: rest)
    else none

/-- A number without a fraction of nothing but zeros. -/
def dropFraction (cs : List Char) : List Char :=
  match cs.dropWhile (· != '.') with
  | _ :: zeros =>
    if !zeros.isEmpty && zeros.all (· == '0') then cs.takeWhile (· != '.') else cs
  | [] => cs

/-- A number without underscores, each of which must stand between two other characters. -/
def joinDigits (cs : List Char) : Option (List Char) :=
  let parts := Text.pieces '_' cs
  if parts.any List.isEmpty then none else some parts.flatten

/-- A text without blanks around it and without a plus sign, which no hyphen may follow. -/
def dropPlus (cs : List Char) : Option (List Char) :=
  match Text.trim Text.isWhiteSpace cs with
  | '+' :: '-' :: _ => none
  | '+' :: rest => some rest
  | cs => some cs

/-- A number freed of all that does not change its value. -/
def clean (cs : List Char) : Option (List Char) :=
  let bare (cs : List Char) := (dropZeros cs).bind fun cs => joinDigits (dropFraction cs)
  (dropPlus cs).bind fun cs =>
    match cs with
    | '-' :: rest => (bare rest).map ('-' :: ·)
    | cs => bare cs

/-- A whole number in decimal. Blanks, a plus sign, zeros at its beginning, underscores and an empty
fraction do not count, unless the number is too long as it stands. -/
def wholeText? (s : String) : Except Cause Int :=
  if beginsTooLong s.toList then .error .tooLarge
  else
    let cleaned := (clean s.toList).filter fun cs => cs.length ≤ wholeTextLimit
    match cleaned.bind plainWhole? with
    | some n => .ok n
    | none => .error .noWholeText

def wholeOfFloat? (x : Binary64) : Except Cause Int :=
  if !x.isFinite then .error .notFinite
  else match x.toInt? with
    | none => .error .fraction
    | some n => if -wordLimit < n ∧ n < wordLimit then .ok n else .error .tooLarge

def whole? : Json → Except Cause Int
  | .int n => .ok n
  | .bool b => .ok (if b then 1 else 0)
  | .float x => wholeOfFloat? x
  | .str s => wholeText? s
  | _ => .error .notWhole

def text? : Json → Except Cause String
  | .str s => .ok s
  | _ => .error .notText

/-! ## A value that was taken is taken again as it is -/

end ContractAtlas.Schema

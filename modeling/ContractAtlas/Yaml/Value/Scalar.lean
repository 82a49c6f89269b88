import ContractAtlas.Decimal.Arithmetic
import ContractAtlas.Decimal.Numeral
import ContractAtlas.Text.CaseMap
import ContractAtlas.Text.Quoted
import ContractAtlas.Yaml.Tag
import ContractAtlas.Yaml.Value

/-!
The values of scalars. An integer may be written to the base 2, 8, 10, 16 or 60, a float to the base
10 or 60, with underscores anywhere. A spelling may pass as a number or a date and yet have no value,
and a tag may ask for a value that the text does not have; the fault says why.
-/
namespace ContractAtlas.Yaml
set_option autoImplicit false

/-! ## Faults -/

/-- Why a scalar has no value of the type that its tag asks for. -/
inductive ValueFault where
  | notInteger (base : Nat) (text : String)
  | longInteger (digits : Nat)
  | notFloat (text : String)
  | emptyNumber
  | manyParts
  | noTruthWord (text : String)
  | noTimestamp
  | timestampInMapping
  | badTimestamp (fault : Timestamp.Fault)
  | noCharacter
  | hugeNumber
  deriving DecidableEq

/-- How many characters of a quoted text a message about an integer shows. -/
def shownLength : Nat := 200

def ValueFault.text : ValueFault → String
  | .notInteger base s =>
    "invalid literal for int() with base " ++ toString base ++ ": " ++
      String.ofList ((Text.quoted s).toList.take shownLength)
  | .longInteger digits => Numeral.longIntegerText digits
  | .notFloat s => "could not convert string to float: " ++ Text.quoted s
  | .emptyNumber => "string index out of range"
  | .manyParts => "int too large to convert to float"
  | .noTruthWord s => Text.quoted s
  | .noTimestamp => "'NoneType' object has no attribute 'groupdict'"
  | .timestampInMapping => "expected string or bytes-like object, got 'list'"
  | .badTimestamp fault => fault.text
  | .noCharacter => "chr() arg not in range(0x110000)"
  | .hugeNumber => "signed integer is greater than maximum"

/-! ## Integers -/

def isNegative (cs : List Char) : Bool := cs.head? == some '-'

def dropUnderscores (cs : List Char) : List Char := cs.filter (· != '_')

def basedOf (base : Nat) (cs : List Char) : Except ValueFault Int :=
  let s := String.ofList cs
  match Numeral.integer base s with
  | .ok n => .ok n
  | .error .malformed => .error (.notInteger base s)
  | .error (.tooLong digits) => .error (.longInteger digits)

/-- The value of parts to the base 60, highest first. -/
def sexagesimalOf (parts : List (List Char)) : Except ValueFault Int :=
  (parts.mapM (basedOf 10)).map fun values => values.foldl (fun n value => n * 60 + value) 0

/-- The value of an integer without its sign; the beginning says which base it is written to. -/
def magnitudeOf (cs : List Char) : Except ValueFault Int :=
  match cs with
  | [] => .error .emptyNumber
  | '0' :: 'b' :: digits => basedOf 2 digits
  | '0' :: 'x' :: digits => basedOf 16 digits
  | '0' :: _ => basedOf 8 cs
  | cs => if cs.contains ':' then sexagesimalOf (Text.pieces ':' cs) else basedOf 10 cs

def integerOf (s : String) : Except ValueFault Int :=
  let cs := dropUnderscores s.toList
  (magnitudeOf (dropSign cs)).map fun n => if isNegative cs then -n else n

/-! ## Floats -/

def decimalOf (cs : List Char) : Except ValueFault Binary64 :=
  let s := String.ofList cs
  match Numeral.float? s with
  | some x => .ok x
  | none => .error (.notFloat s)

/-- Adds parts to the base 60, lowest first, each step rounded; `scale` is the worth of the next. -/
def addSixtieths (sum : Binary64) (scale : Nat) : List Binary64 → Except ValueFault Binary64
  | [] => .ok sum
  | part :: rest =>
    match Binary64.ofNat? scale with
    | some x => addSixtieths (sum.add (part.mul x)) (scale * 60) rest
    | none => .error .manyParts

/-- The value of a float without its sign. -/
def floatMagnitudeOf (cs : List Char) : Except ValueFault Binary64 :=
  if cs = ".inf".toList then .ok (.infinity false)
  else if cs = ".nan".toList then .ok .nan
  else if cs.contains ':' then
    ((Text.pieces ':' cs).mapM decimalOf).bind fun parts => addSixtieths .zero 1 parts.reverse
  else decimalOf cs

def floatOf (s : String) : Except ValueFault Binary64 :=
  let cs := (Text.lower (String.ofList (dropUnderscores s.toList))).toList
  if cs.isEmpty then .error .emptyNumber
  else (floatMagnitudeOf (dropSign cs)).map (Binary64.negateIf (isNegative cs))

/-! ## Truth values -/

def truthOf (s : String) : Except ValueFault Bool :=
  match boolWords.lookup (Text.lower s) with
  | some b => .ok b
  | none => .error (.noTruthWord (Text.lower s))

/-! ## Dates -/

def timestampOf (s : String) : Except ValueFault Timestamp :=
  match timestamp? (spellingOf s).toList with
  | none => .error .noTimestamp
  | some t =>
    match t.fault? with
    | some fault => .error (.badTimestamp fault)
    | none => .ok t

end ContractAtlas.Yaml

import ContractAtlas.Decimal.Numeral
import ContractAtlas.Json.Value
import ContractAtlas.Text.Octets

/-!
Reading JSON. The reader walks the characters once and stops at the first that cannot continue any
text; the complaint says what was expected there. Beyond the standard it takes `NaN`, `Infinity` and
`-Infinity`; an integer of more digits than `Numeral.digitLimit` is refused.
-/
namespace ContractAtlas.Json
set_option autoImplicit false

/-! ## Complaints -/

inductive Complaint where
  | value
  | propertyName
  | colon
  | comma
  | extraData
  | unterminated
  | controlCharacter
  | escape
  | unicodeEscape
  deriving DecidableEq

def Complaint.text : Complaint → String
  | .value => "Expecting value"
  | .propertyName => "Expecting property name enclosed in double quotes"
  | .colon => "Expecting ':' delimiter"
  | .comma => "Expecting ',' delimiter"
  | .extraData => "Extra data"
  | .unterminated => "Unterminated string starting at"
  | .controlCharacter => "Invalid control character at"
  | .escape => "Invalid \\escape"
  | .unicodeEscape => "Invalid \\uXXXX escape"

/-- Why no value was read: a complaint at a character, or an integer of too many digits. -/
inductive ReadError where
  | malformed (complaint : Complaint) (position : Nat)
  | longInteger (digits : Nat)
  deriving DecidableEq

namespace Reader

/-- What is left of the text, and how many characters came before it. -/
structure Cursor where
  pos : Nat
  rest : List Char

def expected {α : Type} (complaint : Complaint) (position : Nat) : Except ReadError α :=
  .error (.malformed complaint position)

/-! ## Blanks and digits -/

def isBlank (c : Char) : Bool := c = ' ' || c = '\t' || c = '\n' || c = '\r'

def Cursor.skipBlank (c : Cursor) : Cursor :=
  ⟨c.pos + (c.rest.takeWhile isBlank).length, c.rest.dropWhile isBlank⟩

def Cursor.advance (c : Cursor) (count : Nat) : Cursor := ⟨c.pos + count, c.rest.drop count⟩

def isDigit (c : Char) : Bool := '0' ≤ c && c ≤ '9'

def ofDigits (cs : List Char) : Nat := cs.foldl (fun n c => n * 10 + (c.toNat - 48)) 0

def hexValue? (c : Char) : Option Nat :=
  if '0' ≤ c ∧ c ≤ '9' then some (c.toNat - 48)
  else if 'a' ≤ c ∧ c ≤ 'f' then some (c.toNat - 87)
  else if 'A' ≤ c ∧ c ≤ 'F' then some (c.toNat - 55)
  else none

def ofHexDigits? (cs : List Char) : Option Nat :=
  cs.foldlM (fun n c => (hexValue? c).map (n * 16 + ·)) 0

/-! ## Numbers -/

/-- The integer part: a lone zero, or digits that do not start with zero. -/
def wholeDigits (cs : List Char) : List Char :=
  match cs with
  | '0' :: _ => ['0']
  | cs => cs.takeWhile isDigit

def fractionDigits (cs : List Char) : List Char :=
  match cs with
  | '.' :: rest => rest.takeWhile isDigit
  | _ => []

/-- The exponent, if digits follow its letter, and the number of characters it takes. -/
def exponentPart (cs : List Char) : Option (Int × Nat) :=
  match cs with
  | e :: rest =>
    if e = 'e' || e = 'E' then
      let (negative, signs, digits) :=
        match rest with
        | '-' :: more => (true, 1, more.takeWhile isDigit)
        | '+' :: more => (false, 1, more.takeWhile isDigit)
        | rest => (false, 0, rest.takeWhile isDigit)
      if digits.isEmpty then none
      else
        let n : Int := ofDigits digits
        some (if negative then -n else n, 1 + signs + digits.length)
    else none
  | [] => none

def integer (negative : Bool) (digits : List Char) : Except ReadError Json :=
  if Numeral.digitLimit < digits.length then .error (.longInteger digits.length)
  else
    let n : Int := ofDigits digits
    .ok (.int (if negative then -n else n))

/-- A number without its sign; `start` is where the sign or the first digit stands. -/
def unsigned (start : Nat) (negative : Bool) (c : Cursor) : Except ReadError (Json × Cursor) :=
  let whole := wholeDigits c.rest
  if whole.isEmpty then expected .value start
  else
    let c := c.advance whole.length
    let fraction := fractionDigits c.rest
    let c := if fraction.isEmpty then c else c.advance (fraction.length + 1)
    match exponentPart c.rest with
    | some (e, width) =>
      .ok (.float (.ofDecimal negative (ofDigits (whole ++ fraction)) (e - fraction.length)),
        c.advance width)
    | none =>
      if fraction.isEmpty then (·, c) <$> integer negative whole
      else .ok (.float (.ofDecimal negative (ofDigits (whole ++ fraction)) (-fraction.length)), c)

def number (c : Cursor) : Except ReadError (Json × Cursor) :=
  match c.rest with
  | '-' :: _ => unsigned c.pos true (c.advance 1)
  | _ => unsigned c.pos false c

/-! ## Texts -/

def simpleEscape? (c : Char) : Option Char :=
  if c = '"' ∨ c = '\\' ∨ c = '/' then some c
  else if c = 'b' then some '\x08'
  else if c = 'f' then some '\x0c'
  else if c = 'n' then some '\n'
  else if c = 'r' then some '\r'
  else if c = 't' then some '\t'
  else none

/-- The rest of a text after its opening quote, which stands at `opening`. -/
def textBody (opening : Nat) (read : List Char) : (pos : Nat) → List Char → Except ReadError (String × Cursor)
  | _, [] => expected .unterminated opening
  | pos, '"' :: rest => .ok (String.ofList read.reverse, ⟨pos + 1, rest⟩)
  | pos, '\\' :: rest =>
    match rest with
    | [] => expected .unterminated opening
    | 'u' :: a :: b :: c :: d :: rest =>
      if rest.isEmpty then expected .unicodeEscape (pos + 1)
      else match ofHexDigits? [a, b, c, d] with
      | none => expected .unicodeEscape (pos + 1)
      | some n =>
        match rest with
        | '\\' :: 'u' :: e :: f :: g :: h :: after =>
          if isHighSurrogateBefore n after then
            match ofHexDigits? [e, f, g, h] with
            | none => expected .unicodeEscape (pos + 7)
            | some m =>
              if Text.isLowSurrogate m then
                textBody opening (Text.charOf (Text.joinSurrogates n m) :: read) (pos + 12) after
              else
                textBody opening (Text.charOf n :: read) (pos + 6)
                  ('\\' :: 'u' :: e :: f :: g :: h :: after)
          else
            textBody opening (Text.charOf n :: read) (pos + 6)
              ('\\' :: 'u' :: e :: f :: g :: h :: after)
        | rest => textBody opening (Text.charOf n :: read) (pos + 6) rest
    | 'u' :: _ => expected .unicodeEscape (pos + 1)
    | e :: rest =>
      match simpleEscape? e with
      | some c => textBody opening (c :: read) (pos + 2) rest
      | none => expected .escape pos
  | pos, c :: rest =>
    if c.toNat < 0x20 then expected .controlCharacter pos
    else textBody opening (c :: read) (pos + 1) rest
where
  /-- A second escape is looked at only if more text follows it. -/
  isHighSurrogateBefore (n : Nat) (after : List Char) : Bool :=
    Text.isHighSurrogate n && !after.isEmpty

/-! ## Values -/

/-- The constants with their values. -/
def constants : List (List Char × Json) := [
  ("null".toList, .null), ("true".toList, .bool true), ("false".toList, .bool false),
  ("NaN".toList, .float .nan), ("Infinity".toList, .float (.infinity false)),
  ("-Infinity".toList, .float (.infinity true))]

def constant? (cs : List Char) : Option (Json × Nat) :=
  constants.findSome? fun (word, json) =>
    if word.isPrefixOf cs then some (json, word.length) else none

mutual

/-- A value that starts right at the cursor. -/
def value : (fuel : Nat) → Cursor → Except ReadError (Json × Cursor)
  | 0, c => expected .value c.pos
  | fuel + 1, c =>
    match c.rest with
    | '"' :: rest => do
      let (s, c) ← textBody c.pos [] (c.pos + 1) rest
      return (.str s, c)
    | '\x7b' :: rest =>
      let c := (Cursor.mk (c.pos + 1) rest).skipBlank
      match c.rest with
      | '\x7d' :: _ => .ok (.obj [], c.advance 1)
      | _ => members fuel [] c
    | '[' :: rest =>
      let c := (Cursor.mk (c.pos + 1) rest).skipBlank
      match c.rest with
      | ']' :: _ => .ok (.arr [], c.advance 1)
      | _ => elements fuel [] c
    | _ =>
      match constant? c.rest with
      | some (json, width) => .ok (json, c.advance width)
      | none => number c

/-- The fields of an object from a key on; `read` holds those before it, last first. -/
def members : (fuel : Nat) → (read : List (String × Json)) → Cursor → Except ReadError (Json × Cursor)
  | 0, _, c => expected .propertyName c.pos
  | fuel + 1, read, c =>
    match c.rest with
    | '"' :: rest => do
      let (key, c) ← textBody c.pos [] (c.pos + 1) rest
      let c := c.skipBlank
      match c.rest with
      | ':' :: _ =>
        let (json, c) ← value fuel (c.advance 1).skipBlank
        let c := c.skipBlank
        match c.rest with
        | '\x7d' :: _ => return (ofSettings ((key, json) :: read).reverse, c.advance 1)
        | ',' :: _ => members fuel ((key, json) :: read) (c.advance 1).skipBlank
        | _ => expected .comma c.pos
      | _ => expected .colon c.pos
    | _ => expected .propertyName c.pos

/-- The items of an array from a value on; `read` holds those before it, last first. -/
def elements : (fuel : Nat) → (read : List Json) → Cursor → Except ReadError (Json × Cursor)
  | 0, _, c => expected .value c.pos
  | fuel + 1, read, c => do
    let (json, c) ← value fuel c
    let c := c.skipBlank
    match c.rest with
    | ']' :: _ => return (.arr (json :: read).reverse, c.advance 1)
    | ',' :: _ => elements fuel (json :: read) (c.advance 1).skipBlank
    | _ => expected .comma c.pos

end

end Reader

/-- Reads a whole text as one value. Each step into the text takes at least one character, so the
fuel never runs out before the text does. -/
def read (text : List Char) : Except ReadError Json := do
  let (json, c) ← Reader.value (text.length + 1) (Reader.Cursor.mk 0 text).skipBlank
  let c := c.skipBlank
  if c.rest.isEmpty then return json else throw (.malformed .extraData c.pos)

/-! ## Places in the text -/

/-- Line and column of a position, both counted from one. -/
def lineColumn (text : List Char) (position : Nat) : Nat × Nat :=
  let before := text.take position
  (before.count '\n' + 1, (before.reverse.takeWhile (· != '\n')).length + 1)

end ContractAtlas.Json

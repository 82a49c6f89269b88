import ContractAtlas.Yaml.Property

/-!
From YAML text to its tokens. A node turns out to be a key only at the colon behind it, so the
scanner remembers for each level of flow collections where a key may have begun, and puts the tokens
that announce it in front of it later; tokens that may still get company wait in a queue. Outside flow
collections the columns of the open block collections are kept, and a line further to the left closes
those it leaves. Text that cannot be scanned ends the tokens with a complaint.
-/
namespace ContractAtlas.Yaml
set_option autoImplicit false

/-! ## State -/

/-- A node that may be a key: the number of its first token, where it begins, and whether nothing but
a key can stand there. -/
structure PossibleKey where
  token : Nat
  required : Bool
  mark : Mark

structure Scanner where
  cursor : Cursor
  queue : List Token := []
  taken : Nat := 0
  flow : Nat := 0
  indent : Int := -1
  outer : List Int := []
  keyAllowed : Bool := true
  keys : List (Nat × PossibleKey) := []
  done : Bool := false

namespace Scanner

def inFlow (s : Scanner) : Bool := s.flow ≠ 0

def mark (s : Scanner) : Mark := s.cursor.mark

def column (s : Scanner) : Int := s.cursor.column

def bareError {α : Type} (s : Scanner) (problem : Problem) : Except Complaint α :=
  .error (.bare problem s.mark)

def add (s : Scanner) (kind : TokenKind) (start stop : Mark) : Scanner :=
  { s with queue := s.queue ++ [⟨kind, start, stop⟩] }

/-- Adds a token that takes up the characters ahead. -/
def addSign (s : Scanner) (kind : TokenKind) (width : Nat) : Scanner :=
  let after := s.cursor.skip width
  { s.add kind s.mark after.mark with cursor := after }

/-- Adds the token that a reader finds at the cursor. -/
def addRead (s : Scanner) (found : Except Complaint (TokenKind × Cursor)) : Except Complaint Scanner :=
  found.map fun (kind, after) => { s.add kind s.mark after.mark with cursor := after }

/-! ## Possible keys -/

def missingColon {α : Type} (s : Scanner) (key : PossibleKey) : Except Complaint α :=
  .error (.within .simpleKey key.mark .noColon s.mark)

/-- The largest distance between the beginning of a key and its colon. -/
def keyLimit : Nat := 1024

/-- Whether a colon can no longer make a key of what began there. -/
def isStale (s : Scanner) (key : PossibleKey) : Bool :=
  key.mark.line ≠ s.mark.line || keyLimit < s.mark.index - key.mark.index

def dropStaleKeys (s : Scanner) : Except Complaint Scanner :=
  match s.keys.find? fun (_, key) => s.isStale key && key.required with
  | some (_, key) => s.missingColon key
  | none => .ok { s with keys := s.keys.filter fun (_, key) => !s.isStale key }

/-- Forgets the possible key of the present level. -/
def dropKey (s : Scanner) : Except Complaint Scanner :=
  match s.keys.lookup s.flow with
  | none => .ok s
  | some key =>
    if key.required then s.missingColon key
    else .ok { s with keys := s.keys.filter fun (level, _) => level ≠ s.flow }

/-- Remembers that a key may begin here. -/
def saveKey (s : Scanner) : Except Complaint Scanner :=
  if s.keyAllowed then
    let key : PossibleKey :=
      ⟨s.taken + s.queue.length, !s.inFlow && s.indent == s.column, s.mark⟩
    s.dropKey.map fun s => { s with keys := s.keys ++ [(s.flow, key)] }
  else .ok s

def allowKey (s : Scanner) (allowed : Bool) : Scanner := { s with keyAllowed := allowed }

/-! ## Indentation -/

/-- Closes block collections until none is indented deeper than a column. -/
def unwind (column : Int) (s : Scanner) : Nat → Scanner
  | 0 => s
  | count + 1 =>
    if s.indent ≤ column then s
    else
      let s := s.add .blockEnd s.mark s.mark
      unwind column { s with indent := s.outer.headD (-1), outer := s.outer.tail } count

def unwindTo (s : Scanner) (column : Int) : Scanner :=
  if s.inFlow then s else unwind column s s.outer.length

/-- Opens a block collection at a column, if that is deeper than the present one: whether it is, and
the state after it. -/
def indentTo (s : Scanner) (column : Int) : Bool × Scanner :=
  if s.indent < column then (true, { s with indent := column, outer := s.indent :: s.outer })
  else (false, s)

/-- Opens a block collection here, where one may begin. -/
def openBlock (s : Scanner) (kind : TokenKind) : Scanner :=
  if s.inFlow then s
  else match s.indentTo s.column with
  | (true, s) => s.add kind s.mark s.mark
  | (false, s) => s

/-! ## Blanks -/

/-- Spaces, comments and line breaks from here on: the cursor behind them, and whether a line ended. -/
def blanksFrom (comment : Bool) (ended : Bool) : List Char → Mark → Cursor × Bool
  | [], mark => (⟨[], mark⟩, ended)
  | c :: rest, mark =>
    let after := mark.after c rest
    if isBreak c then blanksFrom false true rest after
    else if comment || c == '#' then blanksFrom true ended rest after
    else if c == ' ' then blanksFrom false ended rest after
    else (⟨c :: rest, mark⟩, ended)

/-- Goes to the next token. A byte order mark at the beginning of the text is passed over. -/
def skipBlanks (s : Scanner) : Scanner :=
  let c := if s.mark.index = 0 ∧ s.cursor.peek = '\ufeff' then s.cursor.next else s.cursor
  let (c, ended) := blanksFrom false false c.rest c.mark
  { s with cursor := c, keyAllowed := s.keyAllowed || (ended && !s.inFlow) }

/-! ## Tokens by their first character -/

def streamEnd (s : Scanner) : Except Complaint Scanner :=
  (s.unwindTo (-1)).dropKey.map fun s =>
    { s.add .streamEnd s.mark s.mark with keyAllowed := false, keys := [], done := true }

def readDirective (s : Scanner) : Except Complaint Scanner :=
  (s.unwindTo (-1)).dropKey.bind fun s => (s.allowKey false).addRead (directive s.cursor)

def ruler (s : Scanner) (kind : TokenKind) : Except Complaint Scanner :=
  (s.unwindTo (-1)).dropKey.map fun s => (s.allowKey false).addSign kind 3

def flowStart (s : Scanner) (kind : TokenKind) : Except Complaint Scanner :=
  s.saveKey.map fun s => { s.addSign kind 1 with flow := s.flow + 1, keyAllowed := true }

def flowEnd (s : Scanner) (kind : TokenKind) : Except Complaint Scanner :=
  s.dropKey.map fun s => { s.addSign kind 1 with flow := s.flow - 1, keyAllowed := false }

def flowEntry (s : Scanner) : Except Complaint Scanner :=
  (s.allowKey true).dropKey.map fun s => s.addSign .flowEntry 1

def blockEntry (s : Scanner) : Except Complaint Scanner :=
  if !s.inFlow && !s.keyAllowed then s.bareError .sequenceHere
  else ((s.openBlock .blockSequenceStart).allowKey true).dropKey.map fun s => s.addSign .blockEntry 1

def keySign (s : Scanner) : Except Complaint Scanner :=
  if !s.inFlow && !s.keyAllowed then s.bareError .keyHere
  else ((s.openBlock .blockMappingStart).allowKey (!s.inFlow)).dropKey.map fun s => s.addSign .key 1

/-- Puts the tokens that announce a key in front of it. -/
def announceKey (s : Scanner) (key : PossibleKey) : Scanner :=
  let position := key.token - s.taken
  let (opened, s) :=
    if s.inFlow then (false, s) else s.indentTo key.mark.column
  let sign (kind : TokenKind) : Token := ⟨kind, key.mark, key.mark⟩
  let announced := (if opened then [sign .blockMappingStart] else []) ++ [sign .key]
  { s with
    queue := s.queue.take position ++ announced ++ s.queue.drop position
    keys := s.keys.filter fun (level, _) => level ≠ s.flow
    keyAllowed := false }

def valueSign (s : Scanner) : Except Complaint Scanner :=
  match s.keys.lookup s.flow with
  | some key => .ok ((s.announceKey key).addSign .value 1)
  | none =>
    if !s.inFlow && !s.keyAllowed then s.bareError .valueHere
    else
      ((s.openBlock .blockMappingStart).allowKey (!s.inFlow)).dropKey.map fun s => s.addSign .value 1

def readProperty (s : Scanner) (read : Cursor → Except Complaint (TokenKind × Cursor)) :
    Except Complaint Scanner :=
  s.saveKey.bind fun s => (s.allowKey false).addRead (read s.cursor)

def readBlockScalar (s : Scanner) : Except Complaint Scanner :=
  (s.allowKey true).dropKey.bind fun s =>
    s.addRead ((blockScalar (s.indent + 1).toNat s.cursor).map fun (text, after) =>
      (.scalar (String.ofList text) false, after))

def readQuoted (s : Scanner) : Except Complaint Scanner :=
  s.saveKey.bind fun s =>
    (s.allowKey false).addRead ((quotedScalar s.cursor).map fun (text, after) =>
      (.scalar (String.ofList text) false, after))

def readPlain (s : Scanner) : Except Complaint Scanner :=
  s.saveKey.map fun s =>
    let scalar := plainScalar s.inFlow (s.indent + 1).toNat s.cursor
    let s := s.add (.scalar (String.ofList scalar.text) true) s.mark scalar.stop
    { s with cursor := scalar.after, keyAllowed := scalar.endsLine }

/-! ## Next tokens -/

/-- Signs that begin no plain scalar. -/
def signs : List Char := "-?:,[]\x7b\x7d#&*!|>'\"%@\x60".toList

/-- Whether a plain scalar begins here. -/
def startsPlain (s : Scanner) : Bool :=
  let c := s.cursor.peek
  !(endsWord c || signs.contains c) ||
  (!endsWord (s.cursor.peekAt 1) && (c == '-' || (!s.inFlow && (c == '?' || c == ':'))))

/-- Whether a sign is followed by a blank. Inside a flow collection it need not be. -/
def isSign (s : Scanner) : Bool := s.inFlow || endsWord (s.cursor.peekAt 1)

/-- Adds the tokens that begin at the cursor. -/
def fetchHere (s : Scanner) : Except Complaint Scanner :=
  let c := s.cursor.peek
  if s.cursor.rest.isEmpty then s.streamEnd
  else if c = '%' ∧ s.column = 0 then s.readDirective
  else if s.column = 0 ∧ s.cursor.isRuler '-' then s.ruler .documentStart
  else if s.column = 0 ∧ s.cursor.isRuler '.' then s.ruler .documentEnd
  else if c = '[' then s.flowStart .flowSequenceStart
  else if c = '\x7b' then s.flowStart .flowMappingStart
  else if c = ']' then s.flowEnd .flowSequenceEnd
  else if c = '\x7d' then s.flowEnd .flowMappingEnd
  else if c = ',' then s.flowEntry
  else if c = '-' ∧ endsWord (s.cursor.peekAt 1) then s.blockEntry
  else if c = '?' ∧ s.isSign then s.keySign
  else if c = ':' ∧ s.isSign then s.valueSign
  else if c = '*' ∨ c = '&' then s.readProperty anchorOrAlias
  else if c = '!' then s.readProperty tag
  else if (c = '|' ∨ c = '>') ∧ !s.inFlow then s.readBlockScalar
  else if c = '\'' ∨ c = '"' then s.readQuoted
  else if s.startsPlain then s.readPlain
  else .error ⟨some .nextToken, none, .unstartable c, s.mark⟩

def fetch (s : Scanner) : Except Complaint Scanner :=
  s.skipBlanks.dropStaleKeys.bind fun s => (s.unwindTo s.column).fetchHere

/-- Whether the first token of the queue may yet be announced as a key. -/
def firstMayBeKey (s : Scanner) : Bool := s.keys.any fun (_, key) => key.token == s.taken

/-- All tokens from a state on, and the complaint that cuts them off, if any. -/
def tokens (s : Scanner) : Nat → List Token × Option Complaint
  | 0 => ([], none)
  | fuel + 1 =>
    if s.done then (s.queue, none)
    else
      let s' := if s.queue.isEmpty then .ok s else s.dropStaleKeys
      match s' with
      | .error complaint => ([], some complaint)
      | .ok s =>
        match s.queue with
        | token :: queue =>
          if s.firstMayBeKey then
            match s.fetch with
            | .error complaint => ([], some complaint)
            | .ok s => s.tokens fuel
          else
            let (rest, complaint) := { s with queue := queue, taken := s.taken + 1 }.tokens fuel
            (token :: rest, complaint)
        | [] =>
          match s.fetch with
          | .error complaint => ([], some complaint)
          | .ok s => s.tokens fuel

end Scanner

/-! ## Whole texts -/

/-- The tokens of a text, and the complaint that cuts them off, if any. -/
def tokensOf (text : List Char) : List Token × Option Complaint :=
  Scanner.tokens { cursor := .ofText text } (8 * text.length + 16)

end ContractAtlas.Yaml

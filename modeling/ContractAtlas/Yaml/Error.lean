import ContractAtlas.Text.Base64
import ContractAtlas.Yaml.Token

/-!
Complaints about YAML text. A complaint names a problem and where it stands, and often what was being
read at the time and where that began. Its message shows each place with the line it is in, shortened
to what is around the place.
-/
namespace ContractAtlas.Yaml
set_option autoImplicit false

/-! ## What was being read -/

inductive Context where
  | nextToken
  | simpleKey
  | directive
  | directiveAddress
  | anchor
  | aliasName
  | tag
  | tagAddress
  | blockScalar
  | quotedScalar
  | doubleQuotedScalar
  | node
  | blockNode
  | flowNode
  | blockSequence
  | blockMapping
  | flowSequence
  | flowMapping
  | firstAnchor (name : String)
  | document
  | mapping
  | orderedMap
  | pairs
  deriving DecidableEq

def Context.text : Context → String
  | .nextToken => "while scanning for the next token"
  | .simpleKey => "while scanning a simple key"
  | .directive => "while scanning a directive"
  | .directiveAddress => "while parsing a directive"
  | .anchor => "while scanning an anchor"
  | .aliasName => "while scanning an alias"
  | .tag => "while scanning a tag"
  | .tagAddress => "while parsing a tag"
  | .blockScalar => "while scanning a block scalar"
  | .quotedScalar => "while scanning a quoted scalar"
  | .doubleQuotedScalar => "while scanning a double-quoted scalar"
  | .node => "while parsing a node"
  | .blockNode => "while parsing a block node"
  | .flowNode => "while parsing a flow node"
  | .blockSequence => "while parsing a block collection"
  | .blockMapping => "while parsing a block mapping"
  | .flowSequence => "while parsing a flow sequence"
  | .flowMapping => "while parsing a flow mapping"
  | .firstAnchor name => "found duplicate anchor " ++ Text.quoted name ++ "; first occurrence"
  | .document => "expected a single document in the stream"
  | .mapping => "while constructing a mapping"
  | .orderedMap => "while constructing an ordered map"
  | .pairs => "while constructing pairs"

/-! ## Problems -/

/-- The character that stands for the end of the text where one is quoted in a message. -/
def endMark : Char := '\x00'

inductive Problem where
  | unstartable (found : Char)
  | expected (what : String) (found : Char)
  | noColon
  | sequenceHere
  | keyHere
  | valueHere
  | zeroIndentation
  | unknownEscape (found : Char)
  | noCharacter (number : Nat)
  | endOfText
  | separator
  | badOctets (reason : String)
  | expectedToken (what : String) (found : TokenKind)
  | unseparated (what : String) (found : TokenKind)
  | repeatedVersion
  | foreignVersion
  | repeatedHandle (handle : String)
  | undefinedHandle (handle : String)
  | undefinedAlias (name : String)
  | secondAnchor
  | secondDocument
  | unhashableKey
  | expectedMapping (found : String)
  | expectedMappings (found : String)
  | expectedNode (what found : String)
  | expectedSequence (found : String)
  | expectedPair (found : String)
  | expectedOneEntry (found : Nat)
  | badBinary (fault : Text.Base64.Fault)
  | unknownTag (tag : String)
  | tooDeep
  deriving DecidableEq

def quotedChar (c : Char) : String := Text.quoted (String.ofList [c])

def Problem.text : Problem → String
  | .unstartable c => "found character " ++ quotedChar c ++ " that cannot start any token"
  | .expected what c => "expected " ++ what ++ ", but found " ++ quotedChar c
  | .noColon => "could not find expected ':'"
  | .sequenceHere => "sequence entries are not allowed here"
  | .keyHere => "mapping keys are not allowed here"
  | .valueHere => "mapping values are not allowed here"
  | .zeroIndentation => "expected indentation indicator in the range 1-9, but found 0"
  | .unknownEscape c => "found unknown escape character " ++ quotedChar c
  | .noCharacter number => "no character has the number " ++ toString number
  | .endOfText => "found unexpected end of stream"
  | .separator => "found unexpected document separator"
  | .badOctets reason => reason
  | .expectedToken what token => "expected " ++ what ++ ", but found " ++ Text.quoted token.name
  | .unseparated what token => "expected " ++ what ++ ", but got " ++ Text.quoted token.name
  | .repeatedVersion => "found duplicate YAML directive"
  | .foreignVersion => "found incompatible YAML document (version 1.* is required)"
  | .repeatedHandle handle => "duplicate tag handle " ++ Text.quoted handle
  | .undefinedHandle handle => "found undefined tag handle " ++ Text.quoted handle
  | .undefinedAlias name => "found undefined alias " ++ Text.quoted name
  | .secondAnchor => "second occurrence"
  | .secondDocument => "but found another document"
  | .unhashableKey => "found unhashable key"
  | .expectedMapping found => "expected a mapping for merging, but found " ++ found
  | .expectedMappings found => "expected a mapping or list of mappings for merging, but found " ++ found
  | .expectedNode what found => "expected a " ++ what ++ " node, but found " ++ found
  | .expectedSequence found => "expected a sequence, but found " ++ found
  | .expectedPair found => "expected a mapping of length 1, but found " ++ found
  | .expectedOneEntry found =>
    "expected a single mapping item, but found " ++ toString found ++ " items"
  | .badBinary fault => fault.text
  | .unknownTag tag => "could not determine a constructor for the tag " ++ Text.quoted tag
  | .tooDeep => "maximum recursion depth exceeded"

/-! ## Complaints -/

structure Complaint where
  context : Option Context
  contextMark : Option Mark
  problem : Problem
  mark : Mark
  deriving DecidableEq

/-- A problem at a mark, with nothing to say about what was being read. -/
def Complaint.bare (problem : Problem) (mark : Mark) : Complaint := ⟨none, none, problem, mark⟩

/-- A problem met while reading something that began at `start`. -/
def Complaint.within (context : Context) (start : Mark) (problem : Problem) (mark : Mark) : Complaint :=
  ⟨some context, some start, problem, mark⟩

/-! ## Places as shown -/

def isBreak (c : Char) : Bool :=
  c == '\r' || c == '\n' || c == '\x85' || c == '\u2028' || c == '\u2029'

/-- How many characters of a line are shown on either side of a place. -/
def snippetReach : Nat := 37

/-- One side of a snippet, nearest character first: the line up to its end, or, where the line is
long, the nearest characters but for the last five, and an ellipsis. -/
def snippetSide (cs : List Char) : List Char × String :=
  let line := cs.takeWhile fun c => !isBreak c
  if line.length < snippetReach then (line, "") else (line.take (snippetReach - 5), " ... ")

/-- The line around a place and, below it, a caret under the place. -/
def snippet (text : List Char) (mark : Mark) : String :=
  let (before, head) := snippetSide (text.take mark.index).reverse
  let (after, tail) := snippetSide (text.drop mark.index)
  "    " ++ head ++ String.ofList (before.reverse ++ after) ++ tail ++ "\n" ++
    String.ofList (List.replicate (4 + before.length + head.length) ' ') ++ "^"

def Mark.show (text : List Char) (mark : Mark) : String :=
  "  in \"<unicode string>\", line " ++ toString (mark.line + 1) ++ ", column " ++
    toString (mark.column + 1) ++ ":\n" ++ snippet text mark

/-- The place of the context is left out where it is the place of the problem. -/
def Complaint.message (text : List Char) (c : Complaint) : String :=
  let start := c.contextMark.filter fun m => m.line ≠ c.mark.line ∨ m.column ≠ c.mark.column
  String.intercalate "\n"
    (c.context.toList.map Context.text ++ start.toList.map (Mark.show text) ++
      [c.problem.text, c.mark.show text])

/-! ## Faults -/

/-- What is wrong with a text: a character that YAML does not allow, or a complaint. -/
inductive Fault where
  | badCharacter (c : Char) (position : Nat)
  | complaint (text : List Char) (complaint : Complaint)
  deriving DecidableEq

/-- The number of a character in hexadecimal, four digits or more. -/
def charNumber (c : Char) : String :=
  let width := if c.toNat < 0x10000 then 4 else if c.toNat < 0x100000 then 5 else 6
  String.ofList (Text.hexDigits width c.toNat)

def Fault.message : Fault → String
  | .badCharacter c position =>
    "unacceptable character #x" ++ charNumber c ++
      ": special characters are not allowed\n  in \"<unicode string>\", position " ++ toString position
  | .complaint text c => c.message text

end ContractAtlas.Yaml

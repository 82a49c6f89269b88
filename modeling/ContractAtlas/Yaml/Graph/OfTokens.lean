import ContractAtlas.Yaml.Token.Scan
import ContractAtlas.Yaml.Graph

/-!
From tokens to the nodes of the one document of a text, or to the complaint that they are no document.
A text without any document has no nodes. Tokens are looked at one at a time, so that a complaint of
the scanner counts only where the tokens before it fit. Nodes can stand inside each other as deep as
there is room for the calls that read them, two for each level.
-/
namespace ContractAtlas.Yaml
set_option autoImplicit false

/-! ## State -/

def defaultHandles : List (String × String) := [("!", "!"), ("!!", Tag.common)]

/-- The tokens left with the complaint behind them, the nodes so far, the numbers of those that have
anchors, and the handles of tags. -/
structure Parser where
  tokens : List Token
  complaint : Option Complaint
  graph : Graph := {}
  anchors : List (String × Nat) := []
  handles : List (String × String) := defaultHandles

namespace Parser

/-- The next token. Behind the last one, which ends the text, there is only its like. -/
def peek (p : Parser) : Except Complaint Token :=
  match p.tokens, p.complaint with
  | token :: _, _ => .ok token
  | [], some complaint => .error complaint
  | [], none => .ok ⟨.streamEnd, .start, .start⟩

def drop (p : Parser) : Parser := { p with tokens := p.tokens.tail }

/-- The next token, and the state behind it. -/
def take (p : Parser) : Except Complaint (Token × Parser) := p.peek.map (·, p.drop)

/-- The number of the node that an alias stands for. -/
def resolveAlias (p : Parser) (name : String) (mark : Mark) : Except Complaint Nat :=
  match p.anchors.lookup name with
  | some id => .ok id
  | none => .error (.bare (.undefinedAlias name) mark)

/-- Adds a node: its number, and the state with it. -/
def add (p : Parser) (node : Node) : Nat × Parser :=
  (p.graph.size, { p with graph := p.graph.add node })

/-- Adds a node that may have an anchor, which no earlier node may have. -/
def addAnchored (p : Parser) (anchor : Option String) (node : Node) : Except Complaint (Nat × Parser) :=
  match anchor with
  | none => .ok (p.add node)
  | some name =>
    match p.anchors.lookup name with
    | some earlier =>
      .error (.within (.firstAnchor name) (p.graph.node earlier).mark .secondAnchor node.mark)
    | none =>
      let (id, p) := p.add node
      .ok (id, { p with anchors := (name, id) :: p.anchors })

/-- Sets the content of a node whose parts have been read. -/
def fill (p : Parser) (id : Nat) (content : Content) : Nat × Parser :=
  (id, { p with graph := p.graph.setContent id content })

end Parser

/-! ## Properties -/

/-- The properties in front of a node: where they begin, an anchor, and a tag with its mark. -/
structure Properties where
  start : Option Mark := none
  anchor : Option String := none
  tag : Option (Option String × String × Mark) := none

namespace Properties

def takeAnchor (q : Properties) (p : Parser) : Except Complaint (Properties × Parser) :=
  p.peek.map fun token =>
    match token.kind with
    | .anchor name => ({ q with start := q.start <|> some token.start, anchor := some name }, p.drop)
    | _ => (q, p)

def takeTag (q : Properties) (p : Parser) : Except Complaint (Properties × Parser) :=
  p.peek.map fun token =>
    match token.kind with
    | .tag handle suffix =>
      ({ q with start := q.start <|> some token.start, tag := some (handle, suffix, token.start) }, p.drop)
    | _ => (q, p)

/-- An anchor and a tag, in either order. -/
def read (p : Parser) : Except Complaint (Properties × Parser) := do
  let (q, p) ← takeAnchor {} p
  let (q, p) ← q.takeTag p
  if q.anchor.isNone then q.takeAnchor p else .ok (q, p)

/-- The tag written out, its handle replaced by what it stands for. -/
def fullTag (q : Properties) (p : Parser) : Except Complaint (Option String) :=
  match q.tag with
  | none => .ok none
  | some (none, suffix, _) => .ok (some suffix)
  | some (some handle, suffix, mark) =>
    match p.handles.lookup handle with
    | some expansion => .ok (some (expansion ++ suffix))
    | none => .error ⟨some .node, q.start, .undefinedHandle handle, mark⟩

end Properties

/-- The tag of a scalar: the one it has, or the one its spelling asks for; a quoted scalar without a
tag is a text. -/
def scalarTag (tag : Option String) (plain : Bool) (text : String) : Tag :=
  match tag with
  | none => if plain then .ofPlain text else .str
  | some "!" => .ofPlain text
  | some name => .ofName name

/-- The tag of a collection: the one it has, or that of its form. -/
def collectionTag (form : Tag) : Option String → Tag
  | none | some "!" => form
  | some name => .ofName name

/-! ## Nodes -/

/-- Where a node stands: in a flow collection; as a document or an item, where block collections may
begin; or as a key or value, where also a sequence may begin that is not indented. -/
inductive Setting where
  | flow
  | item
  | entry
  deriving DecidableEq

namespace Parser

/-- A node unless the next token is one of those that may follow an empty one, which is then taken to
begin at `mark`. -/
def nodeOrBlank (p : Parser) (ends : TokenKind → Bool) (mark : Mark)
    (node : Parser → Except Complaint (Nat × Parser)) : Except Complaint (Nat × Parser) :=
  p.peek.bind fun token => if ends token.kind then .ok (p.add (.blank mark)) else node p

def endsEntry (kind : TokenKind) : Bool := kind == .blockEntry || kind == .blockEnd

def endsKeyOrValue (kind : TokenKind) : Bool := kind == .key || kind == .value || kind == .blockEnd

def endsUnindentedEntry (kind : TokenKind) : Bool := kind == .blockEntry || endsKeyOrValue kind

/-- The value behind a key, which may be missing. -/
def valueOf (p : Parser) (ends : TokenKind → Bool) (node : Parser → Except Complaint (Nat × Parser)) :
    Except Complaint (Nat × Parser) :=
  p.peek.bind fun token =>
    if token.kind = .value then p.drop.nodeOrBlank ends token.stop node
    else .ok (p.add (.blank token.start))

mutual

/-- A node. `room` is how many calls may stand on one another from here on. -/
def node (setting : Setting) (room : Nat) (p : Parser) : Nat → Except Complaint (Nat × Parser)
  | 0 => .ok (p.add (.blank .start))
  | fuel + 1 => do
    if room = 0 then throw (.bare .tooDeep .start)
    let token ← p.peek
    if let .aliasOf name := token.kind then
      return (← p.resolveAlias name token.start, p.drop)
    let (q, p) ← Properties.read p
    let tag ← q.fullTag p
    let token ← p.peek
    let start := q.start.getD token.start
    let addNode (tag : Tag) (content : Content) := p.addAnchored q.anchor ⟨tag, content, start⟩
    match token.kind, setting != .flow, setting == .entry with
    | .blockEntry, _, true => do
      let (id, p) ← addNode (collectionTag .seq tag) (.seq [])
      let (items, p) ← unindentedEntries (room - 2) p fuel
      return p.fill id (.seq items)
    | .scalar text plain, _, _ => do
      let (id, p) ← addNode (scalarTag tag plain text) (.scalar text)
      return (id, p.drop)
    | .flowSequenceStart, _, _ => do
      let (id, p) ← addNode (collectionTag .seq tag) (.seq [])
      let (items, p) ← flowItems token.start true (room - 2) p.drop fuel
      return p.fill id (.seq items)
    | .flowMappingStart, _, _ => do
      let (id, p) ← addNode (collectionTag .map tag) (.map [])
      let (entries, p) ← flowEntries token.start true (room - 2) p.drop fuel
      return p.fill id (.map entries)
    | .blockSequenceStart, true, _ => do
      let (id, p) ← addNode (collectionTag .seq tag) (.seq [])
      let (items, p) ← blockItems token.start (room - 2) p.drop fuel
      return p.fill id (.seq items)
    | .blockMappingStart, true, _ => do
      let (id, p) ← addNode (collectionTag .map tag) (.map [])
      let (entries, p) ← blockEntries token.start (room - 2) p.drop fuel
      return p.fill id (.map entries)
    | kind, block, _ => do
      if q.anchor.isSome || tag.isSome then
        addNode (scalarTag tag true "") (.scalar "")
      else
        throw (.within (if block then .blockNode else .flowNode) start
          (.expectedToken "the node content" kind) token.start)
termination_by structural fuel => fuel

/-- The items of a block sequence that began at `start`, and its end. -/
def blockItems (start : Mark) (room : Nat) (p : Parser) : Nat → Except Complaint (List Nat × Parser)
  | 0 => .ok ([], p)
  | fuel + 1 => do
    let token ← p.peek
    match token.kind with
    | .blockEntry =>
      let (item, p) ← p.drop.nodeOrBlank endsEntry token.stop fun p => node .item room p fuel
      let (items, p) ← blockItems start room p fuel
      return (item :: items, p)
    | .blockEnd => return ([], p.drop)
    | kind => throw (.within .blockSequence start (.expectedToken "<block end>" kind) token.start)
termination_by structural fuel => fuel

/-- The items of a sequence that is not indented; the token behind it is left. -/
def unindentedEntries (room : Nat) (p : Parser) : Nat → Except Complaint (List Nat × Parser)
  | 0 => .ok ([], p)
  | fuel + 1 => do
    let token ← p.peek
    if token.kind = .blockEntry then
      let (item, p) ← p.drop.nodeOrBlank endsUnindentedEntry token.stop fun p => node .item room p fuel
      let (items, p) ← unindentedEntries room p fuel
      return (item :: items, p)
    else return ([], p)
termination_by structural fuel => fuel

/-- The entries of a block mapping that began at `start`, and its end. -/
def blockEntries (start : Mark) (room : Nat) (p : Parser) :
    Nat → Except Complaint (List (Nat × Nat) × Parser)
  | 0 => .ok ([], p)
  | fuel + 1 => do
    let token ← p.peek
    match token.kind with
    | .key =>
      let (key, p) ← p.drop.nodeOrBlank endsKeyOrValue token.stop fun p => node .entry room p fuel
      let (value, p) ← p.valueOf endsKeyOrValue fun p => node .entry room p fuel
      let (entries, p) ← blockEntries start room p fuel
      return ((key, value) :: entries, p)
    | .blockEnd => return ([], p.drop)
    | kind => throw (.within .blockMapping start (.expectedToken "<block end>" kind) token.start)
termination_by structural fuel => fuel

/-- The items of a flow sequence that began at `start`, and its end. A key in it is a mapping of one
entry. -/
def flowItems (start : Mark) (first : Bool) (room : Nat) (p : Parser) :
    Nat → Except Complaint (List Nat × Parser)
  | 0 => .ok ([], p)
  | fuel + 1 => do
    let token ← p.peek
    if token.kind = .flowSequenceEnd then return ([], p.drop)
    if !first && token.kind ≠ .flowEntry then
      throw (.within .flowSequence start (.unseparated "',' or ']'" token.kind) token.start)
    let p := if first then p else p.drop
    let token ← p.peek
    match token.kind with
    | .flowSequenceEnd => return ([], p.drop)
    | .key =>
      let ends (kind : TokenKind) := kind == .flowEntry || kind == .flowSequenceEnd
      let (key, p) ← p.drop.nodeOrBlank (fun kind => kind == .value || ends kind) token.stop
        fun p => node .flow (room - 2) p fuel
      let (value, p) ← p.valueOf ends fun p => node .flow (room - 2) p fuel
      let (pair, p) := p.add ⟨.map, .map [(key, value)], token.start⟩
      let (items, p) ← flowItems start false room p fuel
      return (pair :: items, p)
    | _ =>
      let (item, p) ← node .flow room p fuel
      let (items, p) ← flowItems start false room p fuel
      return (item :: items, p)
termination_by structural fuel => fuel

/-- The entries of a flow mapping that began at `start`, and its end. -/
def flowEntries (start : Mark) (first : Bool) (room : Nat) (p : Parser) :
    Nat → Except Complaint (List (Nat × Nat) × Parser)
  | 0 => .ok ([], p)
  | fuel + 1 => do
    let token ← p.peek
    if token.kind = .flowMappingEnd then return ([], p.drop)
    if !first && token.kind ≠ .flowEntry then
      throw (.within .flowMapping start (.unseparated "',' or '\x7d'" token.kind) token.start)
    let p := if first then p else p.drop
    let token ← p.peek
    match token.kind with
    | .flowMappingEnd => return ([], p.drop)
    | .key =>
      let ends (kind : TokenKind) := kind == .flowEntry || kind == .flowMappingEnd
      let (key, p) ← p.drop.nodeOrBlank (fun kind => kind == .value || ends kind) token.stop
        fun p => node .flow room p fuel
      let (value, p) ← p.valueOf ends fun p => node .flow room p fuel
      let (entries, p) ← flowEntries start false room p fuel
      return ((key, value) :: entries, p)
    | _ =>
      let (key, p) ← node .flow room p fuel
      let (value, p) := p.add (.blank (← p.peek).start)
      let (entries, p) ← flowEntries start false room p fuel
      return ((key, value) :: entries, p)
termination_by structural fuel => fuel

end

/-! ## Documents -/

def skipDocumentEnds (p : Parser) : Parser :=
  { p with tokens := p.tokens.dropWhile fun token => token.kind == .documentEnd }

/-- The directives ahead. A version may be given once, and every handle once. -/
def directives (version : Bool) (p : Parser) : Nat → Except Complaint Parser
  | 0 => .ok p
  | fuel + 1 => do
    let token ← p.peek
    match token.kind with
    | .directive (.version major _) =>
      if version then throw (.bare .repeatedVersion token.start)
      if major ≠ 1 then throw (.bare .foreignVersion token.start)
      p.drop.directives true fuel
    | .directive (.handle handle expansion) =>
      if (p.handles.lookup handle).isSome then throw (.bare (.repeatedHandle handle) token.start)
      { p.drop with handles := (handle, expansion) :: p.handles }.directives version fuel
    | .directive .unknown => p.drop.directives version fuel
    | _ => return p

/-- The beginning of a document that is announced: the mark where it begins. The end of the text is
no document. -/
def documentStart (p : Parser) : Except Complaint (Option (Mark × Parser)) := do
  let p := p.skipDocumentEnds
  let first ← p.peek
  if first.kind = .streamEnd then return none
  let p ← { p with handles := [] }.directives false p.tokens.length
  let token ← p.peek
  if token.kind ≠ .documentStart then
    throw (.bare (.expectedToken "'<document start>'" token.kind) token.start)
  return some (first.start, { p.drop with handles := p.handles ++ defaultHandles })

def endsDocument (kind : TokenKind) : Bool :=
  kind matches .directive _ || kind == .documentStart || kind == .documentEnd || kind == .streamEnd

/-- The root of the first document, if there is one. Its first token announces it or begins it. -/
def root (p : Parser) (room fuel : Nat) : Except Complaint (Option (Nat × Parser)) := do
  let token ← p.peek
  if token.kind matches .directive _ || token.kind = .documentStart || token.kind = .streamEnd then
    match ← p.documentStart with
    | none => return none
    | some (_, p) =>
      let token ← p.peek
      some <$> p.nodeOrBlank endsDocument token.start fun p => node .item room p fuel
  else some <$> node .item room p fuel

/-- The nodes of the only document and the number of its root; a second document is an error. -/
def single (p : Parser) (room fuel : Nat) : Except Complaint (Option (Graph × Nat)) := do
  match ← p.root room fuel with
  | none => return none
  | some (id, p) =>
    match ← p.documentStart with
    | none => return some (p.graph, id)
    | some (mark, _) => throw (.within .document (p.graph.node id).mark .secondDocument mark)

end Parser

/-! ## Whole texts -/

/-- The nodes of a text and the number of the root, if the text holds a document. -/
def Graph.ofText? (room : Nat) (text : List Char) : Except Complaint (Option (Graph × Nat)) :=
  let (tokens, complaint) := tokensOf text
  Parser.single { tokens, complaint } room (4 * tokens.length + 4)

end ContractAtlas.Yaml

import ContractAtlas.Command.Options
import ContractAtlas.Text.Digit

/-!
From the words of a command line to options. A word that begins with a hyphen is an option, unless it
is a lone hyphen, a negative number, or holds a space and is no spelling of an option; after a double
hyphen no word is. A long option may be cut short as far as it stays unique. Words are classed before
any of them acts, so that an ambiguous one is reported even where help is asked for.
-/
namespace ContractAtlas.Command
set_option autoImplicit false

/-! ## Classes of words -/

inductive Word where
  | value (text : String)
  | flag (spelling : String) (flag : Flag) (attached : Option String)
  | unknown (text : String)
  | separator
  deriving DecidableEq

/-- The text without a line feed at its end. -/
def dropLineFeed (cs : List Char) : List Char :=
  if cs.getLast? = some '\n' then cs.dropLast else cs

/-- A hyphen and digits, or a hyphen and digits around a point, the last not missing. The digits may
be those of any script, and a line feed may follow them. -/
def isNegativeNumber (cs : List Char) : Bool :=
  match dropLineFeed cs with
  | '-' :: rest =>
    match rest.dropWhile Text.isDecimalDigit with
    | [] => !rest.isEmpty
    | '.' :: places => !places.isEmpty && places.all Text.isDecimalDigit
    | _ => false
  | _ => false

/-- The text before the first equals sign, and the text after it if there is one. -/
def splitEquals (cs : List Char) : List Char × Option (List Char) :=
  match cs.dropWhile (· != '=') with
  | [] => (cs, none)
  | _ :: value => (cs.takeWhile (· != '='), some value)

/-- The options that a word may be short for. After a single hyphen the first letter is the option
and what follows is attached to it. -/
def candidates (cs : List Char) : List (String × Flag × Option String) :=
  match cs with
  | '-' :: '-' :: _ =>
    let (start, attached) := splitEquals cs
    (Flag.table.filter fun entry => start.isPrefixOf entry.1.toList).map fun (spelling, flag) =>
      (spelling, flag, attached.map String.ofList)
  | '-' :: c :: rest =>
    (Flag.table.filter fun entry => entry.1.toList == ['-', c]).map fun (spelling, flag) =>
      (spelling, flag, some (String.ofList rest))
  | _ => []

/-- The class of a word that begins with a hyphen and is no spelling of an option as it stands. -/
def classifyShortened (word : String) : Except Misuse Word :=
  let cs := word.toList
  match candidates cs with
  | [(spelling, flag, attached)] => .ok (.flag spelling flag attached)
  | [] => .ok (if isNegativeNumber cs || cs.contains ' ' then .value word else .unknown word)
  | several => .error (.ambiguous word (several.map (·.1)))

def classify (word : String) : Except Misuse Word :=
  let cs := word.toList
  if cs.head? ≠ some '-' then .ok (.value word)
  else match Flag.ofSpelling? word with
  | some flag => .ok (.flag word flag none)
  | none =>
    if cs.length = 1 then .ok (.value word)
    else
      let (start, attached) := splitEquals cs
      match attached, Flag.ofSpelling? (String.ofList start) with
      | some value, some flag => .ok (.flag (String.ofList start) flag (some (String.ofList value)))
      | _, _ => classifyShortened word

def classifyAll : List String → Except Misuse (List Word)
  | [] => .ok []
  | word :: rest =>
    if word = "--" then .ok (.separator :: rest.map .value)
    else match classify word with
    | .error misuse => .error misuse
    | .ok w => (classifyAll rest).map (w :: ·)

/-! ## Acting on words -/

/-- What a command line asks for. -/
inductive Request where
  | run (options : Options)
  | help
  | misuse (misuse : Misuse)
  deriving DecidableEq

/-- Options read so far, whether the folder has had its turn, and the words that found no use. -/
structure Reading where
  options : Options := {}
  folderSeen : Bool := false
  extra : List String := []

/-- The value attached to a flag. Letters attached to a single letter are flags in turn; as far as
they are known they ask for the same help, and the first that is not known is refused with what
follows it. -/
def attachedValue (spelling : String) (value : List Char) : Option (List Char) :=
  match spelling.toList, value with
  | ['-', _], 'h' :: rest => if rest.isEmpty then none else attachedValue spelling rest
  | _, value => some value

def Reading.flag (r : Reading) (spelling : String) (flag : Flag) (attached : Option String) :
    Except Request Reading :=
  match attached.bind fun value => attachedValue spelling value.toList with
  | some value => .error (.misuse (.attached flag (String.ofList value)))
  | none =>
    if flag = .help then .error .help else .ok { r with options := r.options.set flag }

def Reading.fill (r : Reading) (folder : Option String) : Reading :=
  { r with options := { r.options with folder := folder }, folderSeen := true }

def Reading.extend (r : Reading) (word : String) : Reading := { r with extra := r.extra ++ [word] }

/-- The folder takes the first value, with a separator on either side of it. -/
def Reading.read (r : Reading) : List Word → Except Request Reading
  | [] => .ok r
  | .flag spelling flag attached :: rest =>
    match r.flag spelling flag attached with
    | .ok r => r.read rest
    | .error request => .error request
  | .unknown word :: rest => (r.extend word).read rest
  | .separator :: .value v :: rest =>
    if r.folderSeen then ((r.extend "--").extend v).read rest else (r.fill (some v)).read rest
  | .value v :: .separator :: rest =>
    if r.folderSeen then ((r.extend v).extend "--").read rest else (r.fill (some v)).read rest
  | .value v :: rest => if r.folderSeen then (r.extend v).read rest else (r.fill (some v)).read rest
  | .separator :: rest => if r.folderSeen then (r.extend "--").read rest else (r.fill none).read rest

def parse (words : List String) : Request :=
  match classifyAll words with
  | .error misuse => .misuse misuse
  | .ok words =>
    match Reading.read {} words with
    | .error request => request
    | .ok r => if r.extra.isEmpty then .run r.options else .misuse (.unrecognized r.extra)

end ContractAtlas.Command

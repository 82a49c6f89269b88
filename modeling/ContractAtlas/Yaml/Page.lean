import ContractAtlas.Yaml.Style

/-!
A page on which YAML is written from left to right. It knows its column, whether a blank was written
last, and whether the line so far holds nothing but spaces and signs that count as indentation. Long
scalars are folded: a line that has passed `pageWidth` ends at the next place where it may.
-/
namespace ContractAtlas.Yaml
set_option autoImplicit false

/-- The column behind which a line should end. -/
def pageWidth : Nat := 80

structure Page where
  text : String := ""
  column : Nat := 0
  spaced : Bool := true
  indenting : Bool := true

namespace Page

def put (p : Page) (cs : List Char) : Page :=
  { p with text := p.text ++ String.ofList cs, column := p.column + cs.length }

def lineBreak (p : Page) : Page := ⟨p.text ++ "\n", 0, true, true⟩

/-- Goes to a column, on a new line unless only indentation stands before it. -/
def indent (p : Page) (column : Nat) : Page :=
  let p := if !p.indenting || column < p.column || (p.column = column && !p.spaced) then p.lineBreak else p
  if p.column < column then
    { p.put (List.replicate (column - p.column) ' ') with spaced := true }
  else p

/-- Marks what was written last as text. -/
def asText (p : Page) : Page := { p with spaced := false, indenting := false }

/-- Writes a sign, after a blank. -/
def sign (p : Page) (s : String) : Page :=
  (p.put (if p.spaced then s.toList else ' ' :: s.toList)).asText

/-- Writes a sign that counts as indentation, after a blank. -/
def indentSign (p : Page) (s : String) : Page := { p.sign s with indenting := p.indenting }

/-- Writes a sign right behind what stands there. -/
def tightSign (p : Page) (s : String) : Page := (p.put s.toList).asText

/-! ## Scalars -/

/-- The kind of a run of characters in a scalar. -/
def runKind (c : Char) : Nat := if c = ' ' then 0 else if c = '\n' then 1 else 2

def runsOf (cs : List Char) : List (List Char) := cs.splitBy fun a b => runKind a == runKind b

/-- Writes a run; a single space between others may be replaced by a line break, and a line break in
the text is written twice. -/
def putRun (fold : Bool) (column : Nat) (quote : Bool) (p : Page) (run : List Char) : Page :=
  match run with
  | [' '] => if fold ∧ pageWidth < p.column then (p.indent column).asText else p.put run
  | '\n' :: _ => ((run.foldl (fun p _ => p.lineBreak) p.lineBreak).indent column).asText
  | _ => p.put (if quote then run.flatMap fun c => if c = '\'' then ['\'', '\''] else [c] else run)

/-- Writes the runs of a scalar. The first run and the last are never folded. -/
def putRuns (split : Bool) (column : Nat) (quote : Bool) (first : Bool) (p : Page) :
    List (List Char) → Page
  | [] => p
  | run :: rest =>
    putRuns split column quote false
      (p.putRun (split && !first && !rest.isEmpty) column quote run) rest

def putPlain (p : Page) (split : Bool) (column : Nat) (cs : List Char) : Page :=
  let p := if p.spaced then p else p.put [' ']
  p.asText.putRuns split column false true (runsOf cs)

def putSingle (p : Page) (split : Bool) (column : Nat) (cs : List Char) : Page :=
  ((p.sign "'").putRuns split column true true (runsOf cs)).tightSign "'"

/-- Ends a line inside double quotes; a space that follows is escaped. -/
def breakDouble (p : Page) (column : Nat) (next : Option Char) : Page :=
  let p := ((p.put ['\\']).indent column).asText
  if next = some ' ' then p.put ['\\'] else p

/-- Writes the rest of a text between double quotes; `pending` is what was read but not yet written,
last character first. A line may end before a space and next to an escape. -/
def putDoubleRest (split : Bool) (column : Nat) (first : Bool) (pending : List Char) (p : Page) :
    List Char → Page
  | [] => p.put pending.reverse
  | c :: rest =>
    match escapeOf? c with
    | some escape =>
      let p := (p.put pending.reverse).put escape
      let breaks := split && !first && !rest.isEmpty && decide (pageWidth + 1 < p.column)
      putDoubleRest split column false [] (if breaks then p.breakDouble column rest.head? else p) rest
    | none =>
      let breaks := split && !first && !rest.isEmpty && (c == ' ' || pending.isEmpty) &&
        decide (pageWidth < p.column + pending.length)
      if breaks then
        putDoubleRest split column false [c]
          ((p.put pending.reverse).breakDouble column (some c)) rest
      else putDoubleRest split column false (c :: pending) p rest

def putDouble (p : Page) (split : Bool) (column : Nat) (cs : List Char) : Page :=
  (putDoubleRest split column true [] (p.sign "\"") cs).tightSign "\""

/-- Writes a scalar in the style that fits; a key is not folded. -/
def putScalar (p : Page) (key : Bool) (column : Nat) (tag : Tag) (spelling : String) : Page :=
  match styleOf key tag spelling with
  | .plain => p.putPlain (!key) column spelling.toList
  | .single => p.putSingle (!key) column spelling.toList
  | .double => p.putDouble (!key) column spelling.toList

end Page

end ContractAtlas.Yaml

/-!
Console markup. A tag is an opening bracket, one of the letters `a` to `z` or a sign `#`, `/`, `@`,
and further characters up to the first closing bracket, none of them an opening bracket. A backslash
in front of a tag makes it plain text, and two backslashes stand for one. `escape` changes a text so
that it shows as it is.
-/
namespace ContractAtlas.Text
set_option autoImplicit false

/-! ## Tags -/

def opensTag (c : Char) : Bool := ('a' ≤ c && c ≤ 'z') || c = '#' || c = '/' || c = '@'

/-- Whether the text comes to a closing bracket before any opening bracket. -/
def closes (cs : List Char) : Bool :=
  match cs.dropWhile (fun c => c != '[' && c != ']') with
  | ']' :: _ => true
  | _ => false

/-- Whether an opening bracket followed by this text begins a tag. -/
def isTag : List Char → Bool
  | c :: rest => opensTag c && closes rest
  | [] => false

/-! ## Escaping -/

def backslashes (n : Nat) : List Char := List.replicate n '\\'

/-- Doubles the backslashes right before each tag and adds one; `slashes` is the number of
backslashes right before the text. -/
def escapeFrom : (slashes : Nat) → List Char → List Char
  | slashes, [] => backslashes slashes
  | slashes, c :: rest =>
    if c = '\\' then escapeFrom (slashes + 1) rest
    else
      let before := if c = '[' && isTag rest then 2 * slashes + 1 else slashes
      backslashes before ++ c :: escapeFrom 0 rest

/-- A lone backslash at the end would escape what follows, so it is doubled. -/
def closeEscape (cs : List Char) : List Char :=
  match cs.reverse with
  | '\\' :: '\\' :: _ => cs
  | '\\' :: _ => cs ++ ['\\']
  | _ => cs

def escape (s : String) : String := String.ofList (closeEscape (escapeFrom 0 s.toList))

/-! ## Styled texts -/

/-- A text between the tags that open and close a style. -/
def styled (style : String) (text : String) : String :=
  "[" ++ style ++ "]" ++ text ++ "[/" ++ style ++ "]"

end ContractAtlas.Text

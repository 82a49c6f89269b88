import ContractAtlas.Contract.Declaration
import ContractAtlas.Document.Error
import ContractAtlas.Text.Quoted

/-!
An atlas: contracts by name, in the order in which the names first came, and the documents that were
skipped. A contract that comes later under a name takes the place of the earlier one.
-/
namespace ContractAtlas
set_option autoImplicit false

/-! ## Skipped documents -/

structure Skipped where
  path : String
  error : DocumentError
  deriving DecidableEq

def Skipped.text (s : Skipped) : String := s.path ++ ": " ++ s.error.message

/-! ## Atlases -/

structure Atlas where
  contracts : List (String × Contract)
  skipped : List Skipped
  deriving DecidableEq

namespace Atlas

def empty : Atlas := ⟨[], []⟩

def get? (a : Atlas) (name : String) : Option Contract := a.contracts.lookup name

def contains (a : Atlas) (name : String) : Bool := (a.get? name).isSome

def size (a : Atlas) : Nat := a.contracts.length

/-- The names in the order in which they first came. -/
def keys (a : Atlas) : List String := a.contracts.map (·.1)

/-- The names in order of their characters. -/
def names (a : Atlas) : List String := a.keys.mergeSort fun x y => decide (x ≤ y)

/-- The contracts in the order of their names' first coming. -/
def toList (a : Atlas) : List Contract := a.contracts.map (·.2)

/-- Puts a contract under its name; a name that is there keeps its place. -/
def put (c : Contract) : List (String × Contract) → List (String × Contract)
  | [] => [(c.name, c)]
  | (name, old) :: rest =>
    if name = c.name then (name, c) :: rest else (name, old) :: put c rest

def insert (a : Atlas) (c : Contract) : Atlas := { a with contracts := put c a.contracts }

def skip (a : Atlas) (s : Skipped) : Atlas := { a with skipped := a.skipped ++ [s] }

/-- How an atlas is shown in messages. -/
def display (a : Atlas) : String := "ContractRegistry(" ++ Text.quotedList a.names ++ ")"

/-! ## Looking up after inserting -/

theorem lookup_put (c : Contract) (name : String) (cs : List (String × Contract)) :
    (put c cs).lookup name = if name = c.name then some c else cs.lookup name := by
  induction cs with
  | nil =>
    by_cases h : name = c.name
    · simp [put, h]
    · have hb : (name == c.name) = false := by simpa using h
      simp [put, List.lookup_cons, hb, h]
  | cons entry rest ih =>
    obtain ⟨key, old⟩ := entry
    unfold put
    by_cases hk : key = c.name
    · subst hk
      by_cases h : name = c.name
      · simp [h]
      · have hb : (name == c.name) = false := by simpa using h
        simp [List.lookup_cons, hb, h]
    · rw [if_neg hk, List.lookup_cons, List.lookup_cons, ih]
      by_cases h : name = key
      · subst h
        simp [hk]
      · have hb : (name == key) = false := by simpa using h
        simp [hb]

theorem get?_insert (a : Atlas) (c : Contract) (name : String) :
    (a.insert c).get? name = if name = c.name then some c else a.get? name :=
  lookup_put c name a.contracts

end Atlas

end ContractAtlas

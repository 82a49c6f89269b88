import ContractAtlas.Explorer.Row

/-!
A list of the explorer: a title, entries, and a filter that shows the entries of one category. While
the list shows a notice no entry can be chosen; where there is no entry to show a placeholder stands.
The filter offers all entries from the start, and goes back to them only when the categories change.
-/
namespace ContractAtlas.Explorer
set_option autoImplicit false

/-! ## Categories -/

/-- A category by the title shown for it and its key. -/
structure Category where
  title : String
  key : String
  deriving DecidableEq

/-- The choice that shows every entry. -/
def Category.all : Category := ⟨"All", "all"⟩

/-! ## Panes -/

structure Pane (α : Type) where
  title : String
  placeholder : String
  entries : List (Row α) := []
  categories : List Category := []
  options : List Category := [.all]
  filter : String := Category.all.key
  notice : Option String := none

namespace Pane

variable {α : Type}

/-- The filter is shown only if there is something to choose. -/
def filterShown (p : Pane α) : Bool := !p.categories.isEmpty

/-- The entries that pass the filter. -/
def passing (p : Pane α) : List (Row α) :=
  if p.filter = Category.all.key then p.entries
  else p.entries.filter fun row => row.category == p.filter

/-- The entries that can be chosen. -/
def rows (p : Pane α) : List (Row α) := if p.notice.isSome then [] else p.passing

/-- What the list shows: its notice, or its entries, or the placeholder. -/
def texts (p : Pane α) : List String :=
  match p.notice with
  | some notice => [notice]
  | none => if p.rows.isEmpty then [p.placeholder] else p.rows.map Row.markup

/-- What the visible row of an index stands for. -/
def choose? (p : Pane α) (index : Nat) : Option α := p.rows[index]?.map Row.payload

def setTitle (p : Pane α) (title : String) : Pane α := { p with title := title }

/-- Replaces the entries and the categories. -/
def setEntries (p : Pane α) (entries : List (Row α)) (categories : List Category) : Pane α :=
  { p with
    entries := entries
    categories := categories
    options := .all :: categories
    filter := if p.categories = categories then p.filter else Category.all.key
    notice := none }

/-- Shows the entries of the category with a key. -/
def choose (p : Pane α) (key : String) : Pane α := { p with filter := key, notice := none }

/-- Shows a notice in place of the entries. -/
def notify (p : Pane α) (notice : String) : Pane α := { p with notice := some notice }

end Pane

/-! ## Notices -/

def loadingNotice : String := "Loading..."

def errorNotice (message : String) : String := Text.styled "red" ("Error: " ++ Text.escape message)

end ContractAtlas.Explorer

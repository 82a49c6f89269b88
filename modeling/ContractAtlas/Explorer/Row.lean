import ContractAtlas.Text.Markup

/-!
Rows of a list. A row has a label, what it stands for, and the key of the category it belongs to, if
it belongs to one; it is written in console markup, the start of the key in dim before the label.
-/
namespace ContractAtlas.Explorer
set_option autoImplicit false

structure Row (α : Type) where
  label : String
  payload : α
  category : String := ""

/-- How many characters of its category's key a row shows. -/
def keyWidth : Nat := 4

def Row.markup {α : Type} (row : Row α) : String :=
  if row.category = "" then Text.escape row.label
  else Text.styled "dim" (String.ofList (row.category.toList.take keyWidth)) ++ " " ++
    Text.escape row.label

end ContractAtlas.Explorer

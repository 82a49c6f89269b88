import ContractAtlas.Contract.Declaration

/-!
The sections of a contract: its declarations grouped for display. A section that has no members is
not shown; the others come in the fixed order of `Section.all`, with their members in the order of
the source.
-/
namespace ContractAtlas
set_option autoImplicit false

/-! ## Members -/

inductive Member where
  | importDecl (decl : ImportDecl)
  | variableDecl (decl : VariableDecl)
  | functionDecl (decl : FunctionDecl)
  | eventDecl (decl : EventDecl)
  | modifierDecl (decl : ModifierDecl)
  | structDecl (decl : StructDecl)
  | enumDecl (decl : EnumDecl)
  deriving DecidableEq

/-! ## Sections -/

inductive Section where
  | imports
  | constructor
  | stateVariables
  | mappings
  | functions
  | events
  | modifiers
  | structs
  | enums
  deriving DecidableEq

namespace Section

def all : List Section := [
  .imports, .constructor, .stateVariables, .mappings, .functions, .events, .modifiers, .structs, .enums]

def key : Section → String
  | .imports => "imports"
  | .constructor => "constructor"
  | .stateVariables => "variables"
  | .mappings => "mappings"
  | .functions => "functions"
  | .events => "events"
  | .modifiers => "modifiers"
  | .structs => "structs"
  | .enums => "enums"

def title : Section → String
  | .imports => "Imports"
  | .constructor => "Constructor"
  | .stateVariables => "Variables"
  | .mappings => "Mappings"
  | .functions => "Functions"
  | .events => "Events"
  | .modifiers => "Modifiers"
  | .structs => "Structs"
  | .enums => "Enums"

theorem mem_all (s : Section) : s ∈ all := by cases s <;> decide

theorem key_injective {s t : Section} (h : s.key = t.key) : s = t := by
  cases s <;> cases t <;> first | rfl | (exact absurd h (by decide))

end Section

namespace Contract

def members (c : Contract) : Section → List Member
  | .imports => c.imports.map .importDecl
  | .constructor => c.constructor.toList.map .functionDecl
  | .stateVariables => c.stateVariables.map .variableDecl
  | .mappings => c.mappings.map .variableDecl
  | .functions => c.functions.map .functionDecl
  | .events => c.events.map .eventDecl
  | .modifiers => c.modifiers.map .modifierDecl
  | .structs => c.structs.map .structDecl
  | .enums => c.enums.map .enumDecl

/-- The sections that have members, each with its members. -/
def sections (c : Contract) : List (Section × List Member) :=
  (Section.all.map fun s => (s, c.members s)).filter fun (_, members) => !members.isEmpty

theorem mem_sections {c : Contract} {s : Section} {ms : List Member} :
    (s, ms) ∈ c.sections ↔ ms = c.members s ∧ ms ≠ [] := by
  simp only [sections, List.mem_filter, List.mem_map, Prod.mk.injEq]
  constructor
  · rintro ⟨⟨t, _, rfl, rfl⟩, h⟩
    exact ⟨rfl, by simpa using h⟩
  · rintro ⟨rfl, h⟩
    exact ⟨⟨s, Section.mem_all s, rfl, rfl⟩, by simpa using h⟩

end Contract

end ContractAtlas

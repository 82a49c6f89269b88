import ContractAtlas.Atlas.Listing
import ContractAtlas.Proofs.Explorer.Filter
import Mathlib.Algebra.GroupWithZero.Nat

/-!
The views of a contract. Its sections, its counts, the rows of its members and its line in a listing
are told from different tables, but all speak of the same declarations (`Contract.viewed`).
-/
namespace ContractAtlas
set_option autoImplicit false

/-! ## Counted sections -/

namespace Section

def counted : List Section := all.filter (· ≠ .constructor)

theorem mem_counted {s : Section} : s ∈ counted ↔ s ≠ .constructor := by
  simp [counted, mem_all]

theorem keys_nodup : (all.map key).Nodup := by decide

theorem lookup_key {kinds : List Section} {s : Section} (h : s ∈ kinds) (f : Section → Nat) :
    (kinds.map fun t => (t.key, f t)).lookup s.key = some (f s) := by
  induction kinds with
  | nil => cases h
  | cons t rest ih =>
    rw [List.map_cons, List.lookup_cons]
    by_cases hst : s.key = t.key
    · rw [key_injective hst, beq_self_eq_true]
    · have hrest : s ∈ rest := (List.mem_cons.mp h).resolve_left fun heq => hst (heq ▸ rfl)
      rw [beq_eq_false_iff_ne.mpr hst]
      exact ih hrest

end Section

namespace Contract

theorem memberCounts_eq (c : Contract) :
    c.memberCounts = Section.counted.map fun s => (s.key, (c.members s).length) := by
  simp [memberCounts, Section.counted, Section.all, Section.key, members]

theorem sections_keys (c : Contract) :
    (c.sections.map fun e => e.1.key).Sublist (Section.all.map Section.key) := by
  have hsections : c.sections.Sublist (Section.all.map fun s => (s, c.members s)) :=
    List.filter_sublist
  have hkeys := hsections.map fun e => e.1.key
  rwa [List.map_map] at hkeys

theorem flatMap_sections (c : Contract) : c.sections.flatMap Prod.snd = Section.all.flatMap c.members := by
  rw [sections]
  induction Section.all with
  | nil => rfl
  | cons s rest ih =>
    rw [List.map_cons, List.flatMap_cons, ← ih]
    by_cases hempty : c.members s = []
    · rw [List.filter_cons_of_neg (by simp [hempty]), hempty, List.nil_append]
    · rw [List.filter_cons_of_pos (by simpa using hempty), List.flatMap_cons]

theorem length_constructor (c : Contract) :
    (c.members .constructor).length = if c.constructor.isSome then 1 else 0 := by
  cases h : c.constructor <;> simp [members, h]

theorem length_flatMap_sections (c : Contract) : (c.sections.flatMap Prod.snd).length =
    (c.memberCounts.map Prod.snd).sum + if c.constructor.isSome then 1 else 0 := by
  rw [flatMap_sections, ← length_constructor]
  simp [Section.all, memberCounts, members]
  omega

theorem map_payload_memberRows (c : Contract) :
    (Explorer.Screen.memberRows c).map Explorer.Row.payload = c.sections.flatMap Prod.snd := by
  rw [Explorer.Screen.memberRows, List.map_flatMap]
  congr 1
  funext e
  rw [List.map_map]
  exact List.map_id _

/-- The sections that are counted and not empty, each with the number of its members. -/
def tally (c : Contract) : List (String × Nat) :=
  (c.sections.filter fun e => e.1 ≠ .constructor).map fun e => (e.1.key, e.2.length)

theorem shownCounts_eq (c : Contract) : c.shownCounts = c.tally := by
  rw [shownCounts, memberCounts_eq, tally, sections, List.filter_filter, List.filter_map,
    List.filter_map, List.map_map, Section.counted, List.filter_filter]
  congr 1
  refine List.filter_congr fun s _ => ?_
  rw [Bool.eq_iff_iff]
  simp [and_comm]

/-! ## All views -/

/-- The members of a contract as its sections, its counts, the explorer and the listing show them. -/
structure Viewed (c : Contract) : Prop where
  ordered : (c.sections.map fun e => e.1.key).Sublist (Section.all.map Section.key)
  distinct : (c.sections.map fun e => e.1.key).Nodup
  countedKeys : c.memberCounts.map Prod.fst = Section.counted.map Section.key
  /-- A counted section is there exactly if its count is not zero, and has that many members. -/
  counted : ∀ s ≠ Section.constructor, ∃ n, c.memberCounts.lookup s.key = some n ∧
    ((∃ ms, (s, ms) ∈ c.sections) ↔ n ≠ 0) ∧
      ∀ ms, (s, ms) ∈ c.sections → ms = c.members s ∧ ms.length = n
  constructorShown : ∀ ms, (.constructor, ms) ∈ c.sections ↔
    ∃ f, c.constructor = some f ∧ ms = [.functionDecl f]
  /-- Every declaration is in the sections once, and nothing else is. -/
  whole : c.sections.flatMap Prod.snd =
    c.imports.map .importDecl ++ c.constructor.toList.map .functionDecl ++
      c.stateVariables.map .variableDecl ++ c.mappings.map .variableDecl ++
      c.functions.map .functionDecl ++ c.events.map .eventDecl ++ c.modifiers.map .modifierDecl ++
      c.structs.map .structDecl ++ c.enums.map .enumDecl
  /-- The rows of the contract once it is opened, unless they are filtered. -/
  rows : ∀ (s : Explorer.Screen) (name : String), s.atlas.bind (·.get? name) = some c →
    (s.openContract name).members.filter = "all" →
      (s.openContract name).members.rows.map Explorer.Row.payload = c.sections.flatMap Prod.snd ∧
      (s.openContract name).members.rows.length =
        (c.memberCounts.map Prod.snd).sum + if c.constructor.isSome then 1 else 0
  /-- The line of the contract in a listing ends in the counts of its sections, if there are any. -/
  line : ∀ name, c.listingLine name = name ++
    (if c.inherits.isEmpty then "" else " is " ++ commaSeparated c.inherits) ++
    (if c.tally.isEmpty then ""
      else " (" ++ commaSeparated (c.tally.map fun (key, n) => toString n ++ " " ++ key) ++ ")")

theorem rows_openContract {c : Contract} {s : Explorer.Screen} {name : String}
    (hget : s.atlas.bind (·.get? name) = some c)
    (hfilter : (s.openContract name).members.filter = "all") :
    (s.openContract name).members.rows = Explorer.Screen.memberRows c := by
  have hentries : (s.openContract name).members.entries = Explorer.Screen.memberRows c := by
    rw [Explorer.Screen.openContract, hget]
    rfl
  have hnotice : (s.openContract name).members.notice = none := by
    rw [Explorer.Screen.openContract, hget]
    rfl
  rw [Explorer.Pane.rows, hnotice, Explorer.Pane.passing, hfilter, hentries]
  rfl

theorem viewed (c : Contract) : c.Viewed where
  ordered := sections_keys c
  distinct := Section.keys_nodup.sublist (sections_keys c)
  countedKeys := by
    rw [memberCounts_eq, List.map_map]
    rfl
  counted s hs := by
    refine ⟨(c.members s).length, ?_, ?_, ?_⟩
    · rw [memberCounts_eq, Section.lookup_key (Section.mem_counted.mpr hs)]
    · simp [mem_sections]
    · intro ms hms
      obtain ⟨rfl, _⟩ := mem_sections.mp hms
      exact ⟨rfl, rfl⟩
  constructorShown ms := by
    rw [mem_sections, members]
    cases c.constructor with
    | none => simp
    | some f => simp +contextual
  whole := by
    rw [flatMap_sections]
    simp [Section.all, members]
  rows s name hget hfilter := by
    have hpayload := map_payload_memberRows c
    rw [rows_openContract hget hfilter]
    refine ⟨hpayload, ?_⟩
    rw [← length_flatMap_sections, ← hpayload, List.length_map]
  line name := by
    rw [listingLine, shownCounts_eq, List.isEmpty_map]

end Contract

end ContractAtlas

import ContractAtlas.Proofs.Explorer.Run

/-!
The filter of the list of members (`run_filter`). The filter goes back to all members only when the
categories change, so which one stands depends on all contracts that were opened before. Still it is
always one that is offered (`Pane.Listed`), and as the categories are those of the contract that is
selected, it never hides all of its members.
-/
namespace ContractAtlas.Explorer
set_option autoImplicit false

/-! ## Members by kind -/

/-- The members of the contract that is selected, if one is. -/
def membersOf (selected : Option Contract) (kind : Section) : List Member :=
  selected.elim [] fun c => c.members kind

/-- The kinds of which the contract that is selected has members, in the order of the sections. -/
def kindsOf (selected : Option Contract) : List Section :=
  Section.all.filter fun kind => !(membersOf selected kind).isEmpty

def rowsOf (selected : Option Contract) (kind : Section) : List (Row Member) :=
  (membersOf selected kind).map fun m => { label := m.label, payload := m, category := kind.key }

variable {selected : Option Contract} {kind : Section}

theorem mem_kindsOf : kind ∈ kindsOf selected ↔ membersOf selected kind ≠ [] := by
  rw [kindsOf, List.mem_filter]
  simp [Section.mem_all]

theorem kindsOf_eq_nil :
    kindsOf selected = [] ↔ ∀ c, selected = some c → ∀ kind, c.members kind = [] := by
  rw [List.eq_nil_iff_forall_not_mem]
  simp only [mem_kindsOf, not_not]
  cases selected with
  | none => simp [membersOf]
  | some c =>
    constructor
    · rintro h _ ⟨⟩
      exact h
    · intro h
      exact h c rfl

theorem kindsOf_nodup (selected : Option Contract) : (kindsOf selected).Nodup := by
  have hall : Section.all.Nodup := by decide
  exact hall.filter _

theorem sections_eq (c : Contract) :
    c.sections = (kindsOf (some c)).map fun kind => (kind, c.members kind) :=
  List.filter_map

theorem categoriesOf_eq (selected : Option Contract) :
    categoriesOf selected = (kindsOf selected).map fun kind => ⟨kind.title, kind.key⟩ := by
  cases selected with
  | none => rfl
  | some c =>
    change c.sections.map _ = _
    rw [sections_eq, List.map_map]
    rfl

theorem entries_membersPane (title : String) (selected : Option Contract) (filter : String) :
    (membersPane title selected filter).entries = (kindsOf selected).flatMap (rowsOf selected) := by
  cases selected with
  | none => rfl
  | some c =>
    change c.sections.flatMap _ = _
    rw [sections_eq, List.flatMap_map]
    rfl

theorem key_ne_all (kind : Section) : kind.key ≠ Category.all.key := by
  cases kind <;> decide

theorem key_ne_empty (kind : Section) : kind.key ≠ "" := by
  cases kind <;> decide

/-! ## Rows that pass -/

theorem filter_rowsOf (other : Section) :
    (rowsOf selected other).filter (fun row => row.category == kind.key) =
      if other = kind then rowsOf selected kind else [] := by
  by_cases h : other = kind
  · subst h
    rw [if_pos rfl, List.filter_eq_self]
    simp [rowsOf]
  · have hkey : other.key ≠ kind.key := fun heq => h (Section.key_injective heq)
    rw [if_neg h, List.filter_eq_nil_iff]
    simp [rowsOf, hkey]

theorem filter_flatMap_rowsOf {kinds : List Section} (hnodup : kinds.Nodup) (hkind : kind ∈ kinds) :
    (kinds.flatMap (rowsOf selected)).filter (fun row => row.category == kind.key) =
      rowsOf selected kind := by
  rw [List.filter_flatMap]
  simp only [filter_rowsOf]
  -- the kinds are distinct, so every block but one is filtered to nothing
  induction kinds with
  | nil => simp at hkind
  | cons first rest ih =>
    obtain ⟨hfirst, hrest⟩ := List.nodup_cons.mp hnodup
    rw [List.flatMap_cons]
    obtain rfl | hkind := List.mem_cons.mp hkind
    · have hnone : rest.flatMap (fun k => if k = kind then rowsOf selected kind else []) = [] := by
        rw [List.flatMap_eq_nil_iff]
        intro k hk
        have hne : k ≠ kind := by
          rintro rfl
          exact hfirst hk
        exact if_neg hne
      rw [if_pos rfl, hnone, List.append_nil]
    · have hne : first ≠ kind := fun heq => hfirst (heq ▸ hkind)
      rw [if_neg hne, List.nil_append]
      exact ih hrest hkind

theorem rows_membersPane_all (title : String) (selected : Option Contract) :
    (membersPane title selected Category.all.key).rows =
      (kindsOf selected).flatMap (rowsOf selected) :=
  entries_membersPane title selected _

theorem rows_membersPane_key (title : String) (hkind : kind ∈ kindsOf selected) :
    (membersPane title selected kind.key).rows = rowsOf selected kind := by
  have hrows : (membersPane title selected kind.key).rows =
      (membersPane title selected kind.key).entries.filter fun row => row.category == kind.key :=
    if_neg (key_ne_all kind)
  rw [hrows, entries_membersPane, filter_flatMap_rowsOf (kindsOf_nodup selected) hkind]

theorem markup_ne_placeholder {row : Row Member} (h : row ∈ rowsOf selected kind) :
    row.markup ≠ "Select a contract" := by
  -- a row starts with the tag of its category
  obtain ⟨m, _, rfl⟩ := List.mem_map.mp h
  intro heq
  rw [Row.markup, if_neg (key_ne_empty kind), Text.styled] at heq
  have hhead := congrArg (fun text => text.toList.head?) heq
  simp [String.toList_append] at hhead

theorem flatMap_rowsOf_ne_nil (h : kindsOf selected ≠ []) :
    (kindsOf selected).flatMap (rowsOf selected) ≠ [] := by
  obtain ⟨kind, hkind⟩ := List.exists_mem_of_ne_nil _ h
  intro hnil
  have hrows := List.flatMap_eq_nil_iff.mp hnil kind hkind
  exact mem_kindsOf.mp hkind (List.map_eq_nil_iff.mp hrows)

/-! ## The filter that stands -/

/-- The filter of a list is one that it can offer. -/
def Pane.Listed {α : Type} (p : Pane α) : Prop :=
  p.filter = Category.all.key ∨ p.filter ∈ p.categories.map Category.key

theorem setEntries_listed {α : Type} {p : Pane α} (h : p.Listed) (entries : List (Row α))
    (categories : List Category) : (p.setEntries entries categories).Listed := by
  by_cases hcategories : p.categories = categories
  · subst hcategories
    have hfilter : (p.setEntries entries p.categories).filter = p.filter := if_pos rfl
    rw [Pane.Listed, hfilter]
    exact h
  · exact .inl (if_neg hcategories)

theorem choose_listed {p : Pane Member} {title filter key : String}
    (hp : p = membersPane title selected filter) (h : key ∈ p.options.map Category.key) :
    (p.choose key).Listed := by
  subst hp
  exact (List.mem_cons.mp h).imp_right fun hkey => hkey

variable {s : Screen}

theorem reload_listed (h : s.members.Listed) (result : Except Failure Atlas) :
    (s.reload result).members.Listed := by
  rw [reload_members]
  exact setEntries_listed h [] []

theorem openContract_listed (h : s.members.Listed) (name : String) :
    (s.openContract name).members.Listed := by
  rw [Screen.openContract]
  split
  case h_1 => exact h
  case h_2 c _ =>
    have htitled : (s.members.setTitle ("Members of " ++ c.name)).Listed := h
    exact setEntries_listed htitled (Screen.memberRows c) (Screen.memberCategories c)

theorem showContract_members (s : Screen) (name : String) :
    (s.showContract name).members = s.members := by
  rw [Screen.showContract]
  split <;> rfl

theorem highlight_members (s : Screen) (list : ListName) (index : Nat) :
    (s.highlight list index).members = s.members := by
  cases list with
  | contracts =>
    exact choice_induction (P := fun after => after.members = s.members) rfl
      fun name _ => showContract_members s name
  | members =>
    exact choice_induction (P := fun after => after.members = s.members) rfl fun _ _ => rfl

theorem select_listed (h : s.members.Listed) (list : ListName) (index : Nat) :
    (s.select list index).1.members.Listed := by
  cases list with
  | contracts =>
    exact choice_induction (P := fun after => after.members.Listed) h
      fun name _ => openContract_listed h name
  | members => exact h

theorem back_listed (h : s.members.Listed) : s.back.members.Listed := by
  have htitled : (s.members.setTitle "Members").Listed := h
  rw [Screen.back]
  split
  · exact h
  · exact setEntries_listed htitled [] []

theorem step_listed (h : s.members.Listed)
    (hmembers : s.members = membersPane s.members.title s.selected s.members.filter)
    {action : Screen.Action} (hoffered : s.Offers action) : (s.step action).1.members.Listed := by
  cases action with
  | highlight list index =>
    rw [Screen.step, highlight_members]
    exact h
  | select list index => exact select_listed h list index
  | filter key => exact choose_listed hmembers hoffered
  | back => exact back_listed h
  | refresh result => exact reload_listed h result

variable {folder : String} {search : Disk.Search} {strict : Bool}
  {loads : List (Except Failure Atlas)} {e : ExplorerSession}

theorem Run.listed (h : Run Screen.Offers folder search strict loads e) : e.screen.members.Listed := by
  -- what is offered is read off the list before the action, which `Run.showing` gives
  induction h with
  | opened w hload => exact reload_listed (.inl rfl) _
  | refreshed w before hload ih => exact reload_listed ih _
  | acted before hmanual hoffered ih => exact step_listed ih before.showing.members_eq hoffered

/-! ## What is shown -/

/-- A list shows the members of the contract that is selected, all or those of one kind, and stands
empty only if there are none. -/
structure Pane.ShowsMembers (p : Pane Member) (selected : Option Contract) : Prop where
  options : p.options =
    ⟨"All", "all"⟩ :: (kindsOf selected).map fun kind => ⟨kind.title, kind.key⟩
  filterShown : p.filterShown = true ↔ kindsOf selected ≠ []
  rows : (p.filter = "all" ∧ p.rows = (kindsOf selected).flatMap (rowsOf selected)) ∨
    ∃ kind ∈ kindsOf selected, p.filter = kind.key ∧ p.rows = rowsOf selected kind
  rows_ne_nil : kindsOf selected ≠ [] → p.rows ≠ []
  texts : p.texts =
    if kindsOf selected = [] then ["Select a contract"] else p.rows.map Row.markup
  placeholder : "Select a contract" ∈ p.texts ↔
    ∀ c, selected = some c → ∀ kind, c.members kind = []

section Pane

variable {title filter : String}

theorem rows_of_listed (h : (membersPane title selected filter).Listed) :
    (filter = "all" ∧
        (membersPane title selected filter).rows = (kindsOf selected).flatMap (rowsOf selected)) ∨
      ∃ kind ∈ kindsOf selected, filter = kind.key ∧
        (membersPane title selected filter).rows = rowsOf selected kind := by
  obtain hall | hkey := h
  · obtain rfl : filter = Category.all.key := hall
    exact .inl ⟨rfl, rows_membersPane_all title selected⟩
  · change filter ∈ (categoriesOf selected).map Category.key at hkey
    rw [categoriesOf_eq, List.map_map] at hkey
    obtain ⟨kind, hkind, rfl⟩ := List.mem_map.mp hkey
    exact .inr ⟨kind, hkind, rfl, rows_membersPane_key title hkind⟩

theorem rows_ne_nil_of_listed (h : (membersPane title selected filter).Listed)
    (hkinds : kindsOf selected ≠ []) : (membersPane title selected filter).rows ≠ [] := by
  obtain ⟨_, hrows⟩ | ⟨kind, hkind, _, hrows⟩ := rows_of_listed h
  · rw [hrows]
    exact flatMap_rowsOf_ne_nil hkinds
  · rw [hrows, rowsOf, Ne, List.map_eq_nil_iff]
    exact mem_kindsOf.mp hkind

theorem texts_of_listed (h : (membersPane title selected filter).Listed) :
    (membersPane title selected filter).texts =
      if kindsOf selected = [] then ["Select a contract"]
      else (membersPane title selected filter).rows.map Row.markup := by
  have htexts : (membersPane title selected filter).texts =
      if (membersPane title selected filter).rows.isEmpty then ["Select a contract"]
      else (membersPane title selected filter).rows.map Row.markup := rfl
  by_cases hkinds : kindsOf selected = []
  · obtain ⟨_, hrows⟩ | ⟨kind, hkind, _⟩ := rows_of_listed h
    · rw [htexts, if_pos hkinds, hrows, hkinds]
      rfl
    · rw [hkinds] at hkind
      cases hkind
  · have hempty : (membersPane title selected filter).rows.isEmpty = false :=
      List.isEmpty_eq_false_iff.mpr (rows_ne_nil_of_listed h hkinds)
    rw [htexts, if_neg hkinds, hempty]
    rfl

theorem placeholder_mem_texts (h : (membersPane title selected filter).Listed) :
    "Select a contract" ∈ (membersPane title selected filter).texts ↔ kindsOf selected = [] := by
  rw [texts_of_listed h]
  constructor
  · intro hmem
    by_contra hkinds
    rw [if_neg hkinds] at hmem
    obtain ⟨row, hrow, htext⟩ := List.mem_map.mp hmem
    obtain ⟨_, hrows⟩ | ⟨kind, _, _, hrows⟩ := rows_of_listed h
    · rw [hrows] at hrow
      obtain ⟨kind, _, hrow⟩ := List.mem_flatMap.mp hrow
      exact markup_ne_placeholder hrow htext
    · rw [hrows] at hrow
      exact markup_ne_placeholder hrow htext
  · intro hkinds
    rw [if_pos hkinds]
    exact List.mem_singleton_self _

theorem membersPane_shows (h : (membersPane title selected filter).Listed) :
    (membersPane title selected filter).ShowsMembers selected where
  options := congrArg _ (categoriesOf_eq selected)
  filterShown := by
    rw [Pane.filterShown, membersPane, categoriesOf_eq]
    simp
  rows := rows_of_listed h
  rows_ne_nil := rows_ne_nil_of_listed h
  texts := texts_of_listed h
  placeholder := (placeholder_mem_texts h).trans kindsOf_eq_nil

end Pane

/-- Along every run on which the filter is picked among those offered, the list of members shows those
of the contract that is selected. -/
theorem run_filter (h : Run Screen.Offers folder search strict loads e) :
    e.screen.members.ShowsMembers e.screen.selected := by
  have hlisted := h.listed
  rw [h.showing.members_eq] at hlisted ⊢
  exact membersPane_shows hlisted

/-- In the ledger that was opened the enums are picked, and the event is hidden. -/
theorem run_filter_ledger :
    let e := ledgerSession.act (.filter "enums")
    Run Screen.Offers "d" {} true [.ok Atlas.ledgerAtlas] e ∧
      kindsOf e.screen.selected = [.events, .enums] ∧
      e.screen.members.rows.map Row.label = ["State"] ∧
      e.screen.members.filterShown = true := by
  have hoffered : "enums" ∈ ledgerSession.screen.members.options.map Category.key := by decide
  have hmanual : (Screen.Action.filter "enums").isManual = true := rfl
  have hrun := run_ledger.acted hmanual hoffered
  have hkinds : kindsOf (ledgerSession.act (.filter "enums")).screen.selected =
      [.events, .enums] := by decide
  have hshows := run_filter hrun
  refine ⟨hrun, hkinds, ?_, hshows.filterShown.mpr (by simp [hkinds])⟩
  obtain ⟨hall, _⟩ | ⟨kind, hkind, hkey, hrows⟩ := hshows.rows
  · exact absurd hall (by decide)
  · have henums : kind = .enums := Section.key_injective hkey.symm
    rw [hrows, henums]
    rfl

end ContractAtlas.Explorer

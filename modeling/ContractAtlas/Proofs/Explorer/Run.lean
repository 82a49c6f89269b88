import ContractAtlas.Proofs.Atlas.Names
import ContractAtlas.Proofs.Atlas.Rack
import ContractAtlas.Workspace.Explorer

/-!
Runs of the explorer. It is opened on a folder, and then steps by hand and refreshes follow in any order,
each load in a workspace of its own, as the documents may change in between. Whatever happens, a screen
shows what the last load has brought (`Showing`, `Run.showing`); all that is left of earlier loads stands
in the list of contracts, behind the error of a load that failed.
-/
namespace ContractAtlas
set_option autoImplicit false

/-! ## Runs -/

namespace Explorer

/-- A load that ends in an atlas, or in an error that is reported. -/
def Foreseen (result : Except Failure Atlas) : Prop :=
  ∀ failure, result = .error failure → failure.report? ≠ none

namespace Screen

/-- Every action but a refresh is one by hand. -/
def Action.isManual : Action → Bool
  | .refresh _ => false
  | _ => true

/-- A filter is picked among those that the list of members offers at the time. -/
def Offers (s : Screen) : Action → Prop
  | .filter key => key ∈ s.members.options.map Category.key
  | _ => True

def Allows (_ : Screen) (_ : Action) : Prop := True

end Screen

end Explorer

open Explorer

def ExplorerSession.act (e : ExplorerSession) (action : Screen.Action) : ExplorerSession :=
  { e with screen := (e.screen.step action).1 }

/-- The sessions that come of opening the explorer, with the results of all loads up to them, the last
one first. `picks` says which actions are considered. -/
inductive Explorer.Run (picks : Screen → Screen.Action → Prop) (folder : String) (search : Disk.Search)
    (strict : Bool) : List (Except Failure Atlas) → ExplorerSession → Prop
  | opened (w : Workspace) (hload : Foreseen (w.openExplorer folder search strict).2.2) :
      Run picks folder search strict [(w.openExplorer folder search strict).2.2]
        (w.openExplorer folder search strict).2.1
  | refreshed (w : Workspace) {loads : List (Except Failure Atlas)} {e : ExplorerSession}
      (before : Run picks folder search strict loads e) (hload : Foreseen (w.refreshExplorer e).2.2) :
      Run picks folder search strict ((w.refreshExplorer e).2.2 :: loads) (w.refreshExplorer e).2.1
  | acted {action : Screen.Action} {loads : List (Except Failure Atlas)} {e : ExplorerSession}
      (before : Run picks folder search strict loads e) (hmanual : action.isManual = true)
      (hpicked : picks e.screen action) : Run picks folder search strict loads (e.act action)

namespace Explorer

/-! ## What a screen may show -/

/-- A text that tells of a contract of an atlas, or of a member of one. -/
def TellsOf (a : Atlas) (text : String) : Prop :=
  ∃ name c, a.get? name = some c ∧
    (text = c.summary ∨ ∃ kind, ∃ m ∈ c.members kind, text = m.detail)

/-- The last atlas of loads, the last one first. -/
def lastAtlas? (loads : List (Except Failure Atlas)) : Option Atlas := loads.findSome? Except.toOption

def nameRows (a : Atlas) : List (Row String) := a.names.map fun name => { label := name, payload := name }

/-- The list of contracts as it was filled with an atlas, if it ever was. It has no categories. -/
def contractsPane (filled : Option Atlas) (notice : Option String) : Pane String where
  title := "Contracts"
  placeholder := "No contracts found"
  entries := filled.elim [] nameRows
  notice := notice

def categoriesOf (selected : Option Contract) : List Category := selected.elim [] Screen.memberCategories

/-- The list of the members of a contract, if one is selected. -/
def membersPane (title : String) (selected : Option Contract) (filter : String) : Pane Member where
  title := title
  placeholder := "Select a contract"
  entries := selected.elim [] Screen.memberRows
  categories := categoriesOf selected
  options := .all :: categoriesOf selected
  filter := filter

def atlasScreen (folder : String) (a : Atlas) (selected : Option Contract) (title filter detail : String)
    (focused : Option ListName) : Screen where
  folder := folder
  subTitle := folder
  atlas := some a
  selected := selected
  stats := statistics a folder
  contracts := contractsPane (some a) none
  members := membersPane title selected filter
  detail := detail
  focused := focused

def errorScreen (folder message : String) (filled : Option Atlas) (title filter : String)
    (focused : Option ListName) : Screen where
  folder := folder
  subTitle := "Load failed"
  stats := [errorNotice message]
  contracts := contractsPane filled (some (errorNotice message))
  members := membersPane title none filter
  focused := focused

/-- A screen after loads, the last one first: it shows the atlas of the last one, or its error. -/
inductive Showing (folder : String) : List (Except Failure Atlas) → Screen → Prop
  | atlas {a : Atlas} {selected : Option Contract} {detail : String}
      (earlier : List (Except Failure Atlas)) (title filter : String) (focused : Option ListName)
      (hnames : a.WellNamed) (hselected : ∀ c, selected = some c → a.get? c.name = some c)
      (hdetail : detail = emptyDetail ∨ TellsOf a detail) :
      Showing folder (.ok a :: earlier) (atlasScreen folder a selected title filter detail focused)
  | error {failure : Failure} {report : Report} (earlier : List (Except Failure Atlas))
      (title filter : String) (focused : Option ListName) (hreport : failure.report? = some report) :
      Showing folder (.error failure :: earlier)
        (errorScreen folder report.text (lastAtlas? earlier) title filter focused)

variable {folder : String} {loads : List (Except Failure Atlas)} {s : Screen}

theorem Showing.folder_eq (h : Showing folder loads s) : s.folder = folder := by
  cases h <;> rfl

theorem Showing.contracts_eq (h : Showing folder loads s) :
    ∃ notice, s.contracts = contractsPane (lastAtlas? loads) notice := by
  cases h <;> exact ⟨_, rfl⟩

theorem Showing.members_eq (h : Showing folder loads s) :
    s.members = membersPane s.members.title s.selected s.members.filter := by
  cases h <;> rfl

/-! ## Loading -/

/-- The filter of a list that is emptied: it goes back only if there was something to filter by. -/
def Pane.clearedFilter {α : Type} (p : Pane α) : String :=
  if p.categories = [] then p.filter else Category.all.key

theorem setEntries_nil {p : Pane Member} (h : p.placeholder = "Select a contract") :
    p.setEntries [] [] = membersPane p.title none p.clearedFilter := by
  obtain ⟨title, placeholder, entries, categories, options, filter, notice⟩ := p
  obtain rfl : placeholder = _ := h
  rfl

theorem reload_members (s : Screen) (result : Except Failure Atlas) :
    (s.reload result).members = s.members.setEntries [] [] := by
  cases result with
  | ok a => rfl
  | error failure =>
    rw [Screen.reload]
    split <;> rfl

theorem reload_ok {filled : Option Atlas} {notice : Option String}
    (hcontracts : s.contracts = contractsPane filled notice)
    (hmembers : s.members.placeholder = "Select a contract") (a : Atlas) :
    s.reload (.ok a) =
      atlasScreen s.folder a none s.members.title s.members.clearedFilter emptyDetail
        (some .contracts) := by
  rw [Screen.reload, Screen.loaded, Screen.loading, Screen.clearMembers, setEntries_nil hmembers,
    hcontracts]
  rfl

theorem reload_error {filled : Option Atlas} {notice : Option String}
    (hcontracts : s.contracts = contractsPane filled notice)
    (hmembers : s.members.placeholder = "Select a contract") {failure : Failure} {report : Report}
    (hreport : failure.report? = some report) :
    s.reload (.error failure) =
      errorScreen s.folder report.text filled s.members.title s.members.clearedFilter s.focused := by
  rw [Screen.reload, hreport]
  dsimp only
  rw [Screen.failed, Screen.loading, Screen.clearMembers, setEntries_nil hmembers, hcontracts]
  rfl

theorem showing_reload {notice : Option String}
    (hcontracts : s.contracts = contractsPane (lastAtlas? loads) notice)
    (hmembers : s.members.placeholder = "Select a contract") {result : Except Failure Atlas}
    (hload : Foreseen result) (hnames : ∀ a, result = .ok a → a.WellNamed) :
    Showing s.folder (result :: loads) (s.reload result) := by
  cases result with
  | ok a =>
    rw [reload_ok hcontracts hmembers]
    exact .atlas loads _ _ _ (hnames a rfl) (by simp) (.inl rfl)
  | error failure =>
    obtain ⟨report, hreport⟩ := Option.ne_none_iff_exists'.mp (hload failure rfl)
    rw [reload_error hcontracts hmembers hreport]
    exact .error loads _ _ _ hreport

theorem Showing.reload (h : Showing folder loads s) {result : Except Failure Atlas}
    (hload : Foreseen result) (hnames : ∀ a, result = .ok a → a.WellNamed) :
    Showing folder (result :: loads) (s.reload result) := by
  obtain ⟨notice, hcontracts⟩ := h.contracts_eq
  have hmembers : s.members.placeholder = "Select a contract" := by rw [h.members_eq]; rfl
  have hreload := showing_reload hcontracts hmembers hload hnames
  rwa [h.folder_eq] at hreload

theorem showing_opened {result : Except Failure Atlas} (hload : Foreseen result)
    (hnames : ∀ a, result = .ok a → a.WellNamed) :
    Showing folder [result] (.opened folder result) := by
  have hcontracts : ({ folder := folder } : Screen).contracts =
      contractsPane (lastAtlas? []) none := rfl
  exact showing_reload hcontracts rfl hload hnames

/-! ## Steps by hand -/

theorem choose?_mem {α : Type} {p : Pane α} {index : Nat} {x : α} (h : p.choose? index = some x) :
    p.notice = none ∧ ∃ row ∈ p.entries, row.payload = x := by
  obtain ⟨row, hrow, rfl⟩ := Option.map_eq_some_iff.mp h
  have hmem := List.mem_of_getElem? hrow
  rw [Pane.rows] at hmem
  split at hmem
  case isTrue => simp at hmem
  case isFalse hnotice =>
    refine ⟨by simpa using hnotice, row, ?_, rfl⟩
    rw [Pane.passing] at hmem
    split at hmem
    · exact hmem
    · exact (List.mem_filter.mp hmem).1

theorem mem_memberRows {c : Contract} {row : Row Member} (h : row ∈ Screen.memberRows c) :
    ∃ kind, row.payload ∈ c.members kind := by
  obtain ⟨⟨kind, members⟩, hsection, hrow⟩ := List.mem_flatMap.mp h
  obtain ⟨m, hm, rfl⟩ := List.mem_map.mp hrow
  exact ⟨kind, (Contract.mem_sections.mp hsection).1 ▸ hm⟩

theorem choose?_membersPane {title filter : String} {selected : Option Contract} {index : Nat}
    {m : Member} (h : (membersPane title selected filter).choose? index = some m) :
    ∃ c, selected = some c ∧ ∃ kind, m ∈ c.members kind := by
  obtain ⟨_, row, hrow, rfl⟩ := choose?_mem h
  cases selected with
  | none => simp [membersPane] at hrow
  | some c => exact ⟨c, rfl, mem_memberRows hrow⟩

theorem choice_induction {α : Type} {P : Screen → Prop} {choice : Option α} {f : α → Screen}
    (hstay : P s) (hchoose : ∀ x, choice = some x → P (f x)) : P ((choice.map f).getD s) := by
  cases choice with
  | none => exact hstay
  | some x => exact hchoose x rfl

section Atlas

variable {a : Atlas} {selected : Option Contract} {title filter detail : String}
  {focused : Option ListName} {earlier : List (Except Failure Atlas)}

theorem showing_showContract (hnames : a.WellNamed)
    (hselected : ∀ c, selected = some c → a.get? c.name = some c)
    (hdetail : detail = emptyDetail ∨ TellsOf a detail) (name : String) :
    Showing folder (.ok a :: earlier)
      ((atlasScreen folder a selected title filter detail focused).showContract name) := by
  rw [Screen.showContract]
  split
  case h_1 => exact .atlas earlier title filter focused hnames hselected hdetail
  case h_2 c hc =>
    exact .atlas earlier title filter focused hnames hselected (.inr ⟨name, c, hc, .inl rfl⟩)

theorem showing_openContract (hnames : a.WellNamed)
    (hselected : ∀ c, selected = some c → a.get? c.name = some c)
    (hdetail : detail = emptyDetail ∨ TellsOf a detail) (name : String) :
    Showing folder (.ok a :: earlier)
      ((atlasScreen folder a selected title filter detail focused).openContract name) := by
  rw [Screen.openContract]
  split
  case h_1 => exact .atlas earlier title filter focused hnames hselected hdetail
  case h_2 c hc =>
    -- the row gives the name it stands under, the screen is checked against the contract's own
    have hname : a.get? c.name = some c := by rwa [hnames.named name c hc]
    refine .atlas earlier _ _ _ hnames ?_ (.inr ⟨name, c, hc, .inl rfl⟩)
    rintro _ ⟨⟩
    exact hname

theorem showing_back (hnames : a.WellNamed)
    (hselected : ∀ c, selected = some c → a.get? c.name = some c)
    (hdetail : detail = emptyDetail ∨ TellsOf a detail) :
    Showing folder (.ok a :: earlier)
      (atlasScreen folder a selected title filter detail focused).back := by
  cases selected with
  | none => exact .atlas earlier title filter focused hnames hselected hdetail
  | some c => exact .atlas earlier _ _ _ hnames (by simp) hdetail

theorem showing_step_of_atlas (hnames : a.WellNamed)
    (hselected : ∀ c, selected = some c → a.get? c.name = some c)
    (hdetail : detail = emptyDetail ∨ TellsOf a detail) {action : Screen.Action}
    (hmanual : action.isManual = true) :
    Showing folder (.ok a :: earlier)
      ((atlasScreen folder a selected title filter detail focused).step action).1 := by
  have hstay : Showing folder (.ok a :: earlier)
      (atlasScreen folder a selected title filter detail focused) :=
    .atlas earlier title filter focused hnames hselected hdetail
  cases action with
  | highlight list index =>
    cases list with
    | contracts =>
      exact choice_induction hstay fun name _ =>
        showing_showContract hnames hselected hdetail name
    | members =>
      refine choice_induction hstay fun m hm => ?_
      obtain ⟨c, hc, kind, hkind⟩ := choose?_membersPane hm
      have htells : TellsOf a m.detail := ⟨c.name, c, hselected c hc, .inr ⟨kind, m, hkind, rfl⟩⟩
      exact .atlas earlier title filter focused hnames hselected (.inr htells)
  | select list index =>
    cases list with
    | contracts =>
      exact choice_induction hstay fun name _ =>
        showing_openContract hnames hselected hdetail name
    | members => exact hstay
  | filter key => exact .atlas earlier title key focused hnames hselected hdetail
  | back => exact showing_back hnames hselected hdetail
  | refresh result => cases hmanual

end Atlas

/-- Behind an error nothing can be chosen, so that only the filter can change. -/
theorem showing_step_of_error {failure : Failure} {report : Report}
    {earlier : List (Except Failure Atlas)} {title filter : String} {focused : Option ListName}
    (hreport : failure.report? = some report) {action : Screen.Action}
    (hmanual : action.isManual = true) :
    Showing folder (.error failure :: earlier)
      ((errorScreen folder report.text (lastAtlas? earlier) title filter focused).step action).1 := by
  have hstay : Showing folder (.error failure :: earlier)
      (errorScreen folder report.text (lastAtlas? earlier) title filter focused) :=
    .error earlier title filter focused hreport
  cases action with
  | highlight list index =>
    cases list with
    | contracts => exact hstay
    | members =>
      refine choice_induction hstay fun m hm => ?_
      obtain ⟨c, hc, _⟩ := choose?_membersPane hm
      cases hc
  | select list index =>
    cases list with
    | contracts => exact hstay
    | members => exact hstay
  | filter key => exact .error earlier title key focused hreport
  | back => exact hstay
  | refresh result => cases hmanual

theorem Showing.step (h : Showing folder loads s) {action : Screen.Action}
    (hmanual : action.isManual = true) : Showing folder loads (s.step action).1 := by
  cases h with
  | atlas earlier title filter focused hnames hselected hdetail =>
    exact showing_step_of_atlas hnames hselected hdetail hmanual
  | error earlier title filter focused hreport => exact showing_step_of_error hreport hmanual

/-! ## Whole runs -/

variable {picks : Screen → Screen.Action → Prop} {search : Disk.Search} {strict : Bool}
  {e : ExplorerSession}

theorem Run.session (h : Run picks folder search strict loads e) :
    e.search = search ∧ e.strict = strict := by
  induction h with
  | opened w hload => exact ⟨rfl, rfl⟩
  | refreshed w before hload ih => exact ih
  | acted before hmanual hpicked ih => exact ih

theorem Run.showing (h : Run picks folder search strict loads e) : Showing folder loads e.screen := by
  -- the invariant is one of the loads as well: an atlas from a build is well named
  induction h with
  | opened w hload => exact showing_opened hload fun a ha => Atlas.wellNamed_of_build ha
  | refreshed w before hload ih => exact ih.reload hload fun a ha => Atlas.wellNamed_of_build ha
  | acted before hmanual hpicked ih => exact ih.step hmanual

theorem Run.mono {picks' : Screen → Screen.Action → Prop}
    (hpicks : ∀ s action, picks s action → picks' s action)
    (h : Run picks folder search strict loads e) : Run picks' folder search strict loads e := by
  induction h with
  | opened w hload => exact .opened w hload
  | refreshed w before hload ih => exact .refreshed w ih hload
  | acted before hmanual hpicked ih => exact .acted ih hmanual (hpicks _ _ hpicked)

/-! ## A run on a rack -/

def shelf (content : List UInt8) : Workspace :=
  { disk := Atlas.rack (Atlas.single content), environment := { home := "" }, stamp := "" }

/-- A strict load of a file without text fails, and the error is reported. -/
theorem load_blank : ∃ failure,
    ((shelf []).openExplorer "d" {} true).2.2 = .error failure ∧ Foreseen (.error failure) := by
  obtain ⟨failure, hbuild, hreport⟩ := Atlas.build_blank
  refine ⟨failure, hbuild, ?_⟩
  rintro _ ⟨⟩
  exact Option.isSome_iff_ne_none.mp hreport

/-- The explorer is opened on the ledger, and then the first contract is opened. -/
def ledgerSession : ExplorerSession where
  search := {}
  strict := true
  screen := atlasScreen "d" Atlas.ledgerAtlas (some Atlas.ledger) "Members of Ledger" "all"
    Atlas.ledger.summary (some .members)

theorem run_ledger :
    Run Screen.Offers "d" {} true [.ok Atlas.ledgerAtlas] ledgerSession := by
  have hresult : ((shelf Atlas.ledgerContent).openExplorer "d" {} true).2.2 = .ok Atlas.ledgerAtlas :=
    Atlas.build_ledger true
  have hscreen : ((shelf Atlas.ledgerContent).openExplorer "d" {} true).2.1 =
      ⟨{}, true, Screen.opened "d" (.ok Atlas.ledgerAtlas)⟩ := by
    rw [← hresult]
    rfl
  have hopened : Run Screen.Offers "d" {} true _ _ :=
    .opened (shelf Atlas.ledgerContent) (by simp [Foreseen, hresult])
  rw [hresult, hscreen] at hopened
  have hmanual : (Screen.Action.select .contracts 0).isManual = true := rfl
  have hselected := hopened.acted hmanual trivial
  have hrow : (Screen.opened "d" (.ok Atlas.ledgerAtlas)).contracts.choose? 0 = some "Ledger" := by
    change (nameRows Atlas.ledgerAtlas)[0]?.map Row.payload = _
    rw [nameRows, Atlas.names_ledgerAtlas]
    rfl
  rw [ExplorerSession.act, Screen.step, Screen.select, hrow] at hselected
  exact hselected

end Explorer

end ContractAtlas

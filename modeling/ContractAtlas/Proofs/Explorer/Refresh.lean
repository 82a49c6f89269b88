import ContractAtlas.Proofs.Explorer.Filter

/-!
A refresh against a new explorer on the same documents (`run_refresh`). The two screens show the same
but for the title over the members and, after a load that fails, the focus. Behind the error the list
of contracts may still have the rows of the last atlas, but nothing that is done later brings them up
(`Screen.Alike.steps`).
-/
namespace ContractAtlas.Explorer
set_option autoImplicit false

/-! ## Screens that are alike -/

namespace Screen

/-- The screen with another title over the members, other rows in the list of contracts, and another
focus. -/
def varied (s : Screen) (title : String) (rows : List (Row String)) (focused : Option ListName) :
    Screen :=
  { s with
    members := s.members.setTitle title
    contracts := { s.contracts with entries := rows }
    focused := focused }

/-- Two screens that differ in nothing but the title over the members, the focus, and what their lists
of contracts have behind a notice. -/
inductive Alike : Screen → Screen → Prop
  | varied {s : Screen} {rows : List (Row String)} (title : String) (focused : Option ListName)
      (hrows : rows = s.contracts.entries ∨ s.contracts.notice ≠ none) :
      Alike (s.varied title rows focused) s

/-- The screen after some actions, and the full views that they opened. -/
def steps (s : Screen) : List Action → Screen × List FullView
  | [] => (s, [])
  | action :: rest =>
    let later := (s.step action).1.steps rest
    (later.1, (s.step action).2.toList ++ later.2)

variable {s t : Screen}

theorem showContract_contracts (name : String) : (s.showContract name).contracts = s.contracts := by
  rw [showContract]
  split <;> rfl

theorem openContract_contracts (name : String) : (s.openContract name).contracts = s.contracts := by
  rw [openContract]
  split <;> rfl

theorem back_contracts : s.back.contracts = s.contracts := by
  rw [back]
  split <;> rfl

section Varied

variable (title : String) (rows : List (Row String)) (focused : Option ListName)

theorem showContract_varied (name : String) :
    (s.varied title rows focused).showContract name =
      (s.showContract name).varied title rows focused := by
  cases hfound : s.atlas.bind (·.get? name) <;> simp only [showContract, varied, hfound]

/-- A contract is opened with a title and a focus of its own. -/
theorem openContract_varied (name : String) : ∃ title' focused',
    (s.varied title rows focused).openContract name =
      (s.openContract name).varied title' rows focused' := by
  cases hfound : s.atlas.bind (·.get? name) with
  | none => exact ⟨title, focused, by simp only [openContract, varied, hfound]⟩
  | some c =>
    refine ⟨"Members of " ++ c.name, some .members, ?_⟩
    simp only [openContract, varied, hfound]
    rfl

theorem back_varied : ∃ title' focused',
    (s.varied title rows focused).back = s.back.varied title' rows focused' := by
  cases hselected : s.selected with
  | none => exact ⟨title, focused, by simp [back, varied, hselected]⟩
  | some c =>
    refine ⟨"Members", some .contracts, ?_⟩
    simp only [back, varied, hselected]
    rfl

end Varied

namespace Alike

theorem contracts_rows (h : s.Alike t) : s.contracts.rows = t.contracts.rows := by
  obtain ⟨title, focused, rfl | hnotice⟩ := h
  · rfl
  · have hsome : t.contracts.notice.isSome = true := Option.isSome_iff_ne_none.mpr hnotice
    exact (if_pos hsome).trans (if_pos hsome).symm

theorem contracts_texts (h : s.Alike t) : s.contracts.texts = t.contracts.texts := by
  have hrows := h.contracts_rows
  obtain ⟨title, focused, _⟩ := h
  rw [Pane.texts, Pane.texts, hrows]
  rfl

theorem showContract (h : s.Alike t) (name : String) :
    (s.showContract name).Alike (t.showContract name) := by
  obtain @⟨t, rows, title, focused, hrows⟩ := h
  rw [showContract_varied]
  exact .varied title focused (by rwa [showContract_contracts])

theorem openContract (h : s.Alike t) (name : String) :
    (s.openContract name).Alike (t.openContract name) := by
  obtain @⟨t, rows, title, focused, hrows⟩ := h
  obtain ⟨title', focused', hopened⟩ := openContract_varied (s := t) title rows focused name
  rw [hopened]
  exact .varied title' focused' (by rwa [openContract_contracts])

theorem back (h : s.Alike t) : s.back.Alike t.back := by
  obtain @⟨t, rows, title, focused, hrows⟩ := h
  obtain ⟨title', focused', hback⟩ := back_varied (s := t) title rows focused
  rw [hback]
  exact .varied title' focused' (by rwa [back_contracts])

/-- A load fills the list of contracts anew, or leaves a notice in front of it. -/
theorem reload (h : s.Alike t) (result : Except Failure Atlas) :
    (s.reload result).Alike (t.reload result) := by
  obtain @⟨t, rows, title, focused, hrows⟩ := h
  cases result with
  | ok a => exact .varied (s := t.reload (.ok a)) title (some .contracts) (.inl rfl)
  | error failure =>
    rw [Screen.reload, Screen.reload]
    cases failure.report? with
    | none => exact .varied (s := t.loading) title focused (.inr (by simp [loading, Pane.notify]))
    | some report =>
      exact .varied (s := t.loading.failed report.text) title focused
        (.inr (by simp [failed, Pane.notify]))

/-- An action does the same to both and opens the same full view. -/
theorem step (h : s.Alike t) (action : Action) :
    (s.step action).1.Alike (t.step action).1 ∧ (s.step action).2 = (t.step action).2 := by
  have hcontract (index : Nat) : s.contracts.choose? index = t.contracts.choose? index := by
    rw [Pane.choose?, Pane.choose?, h.contracts_rows]
  have hmember (index : Nat) : s.members.choose? index = t.members.choose? index := by
    obtain ⟨title, focused, _⟩ := h
    rfl
  cases action with
  | highlight list index =>
    refine ⟨?_, rfl⟩
    cases list with
    | contracts =>
      rw [Screen.step, Screen.step, highlight, highlight, hcontract]
      cases t.contracts.choose? index with
      | none => exact h
      | some name => exact h.showContract name
    | members =>
      rw [Screen.step, Screen.step, highlight, highlight, hmember]
      cases t.members.choose? index with
      | none => exact h
      | some m =>
        obtain @⟨t, rows, title, focused, hrows⟩ := h
        exact .varied (s := t.showMember m) title focused hrows
  | select list index =>
    cases list with
    | contracts =>
      refine ⟨?_, rfl⟩
      rw [Screen.step, Screen.step, select, select, hcontract]
      cases t.contracts.choose? index with
      | none => exact h
      | some name => exact h.openContract name
    | members =>
      refine ⟨h, ?_⟩
      rw [Screen.step, Screen.step, select, select, hmember]
  | filter key =>
    obtain @⟨t, rows, title, focused, hrows⟩ := h
    exact ⟨.varied (s := (t.step (.filter key)).1) title focused hrows, rfl⟩
  | back => exact ⟨h.back, rfl⟩
  | refresh result => exact ⟨h.reload result, rfl⟩

theorem steps (h : s.Alike t) (actions : List Action) :
    (s.steps actions).1.Alike (t.steps actions).1 ∧ (s.steps actions).2 = (t.steps actions).2 := by
  induction actions generalizing s t with
  | nil => exact ⟨h, rfl⟩
  | cons action rest ih =>
    obtain ⟨hafter, hview⟩ := h.step action
    obtain ⟨hlast, hviews⟩ := ih hafter
    refine ⟨hlast, ?_⟩
    simp only [Screen.steps, hview, hviews]

end Alike

end Screen

/-! ## One refresh -/

/-- How a screen after a refresh agrees with a new one after the same load. -/
structure Screen.Restarts (before : Screen) (result : Except Failure Atlas) (again fresh : Screen) :
    Prop where
  folder : again.folder = fresh.folder
  subTitle : again.subTitle = fresh.subTitle
  atlas : again.atlas = fresh.atlas
  selected : again.selected = fresh.selected
  stats : again.stats = fresh.stats
  title : again.contracts.title = fresh.contracts.title
  rows : again.contracts.rows = fresh.contracts.rows
  texts : again.contracts.texts = fresh.contracts.texts
  categories : again.contracts.categories = fresh.contracts.categories
  options : again.contracts.options = fresh.contracts.options
  filter : again.contracts.filter = fresh.contracts.filter
  filterShown : again.contracts.filterShown = fresh.contracts.filterShown
  members : again.members = fresh.members.setTitle before.members.title
  detail : again.detail = fresh.detail
  focused : again.focused = if result.isOk then fresh.focused else before.focused
  /-- Where the load succeeds the lists of contracts are equal altogether. -/
  entries : result.isOk = true → again.contracts = fresh.contracts
  /-- Whatever is done later shows the same on both and opens the same full views. -/
  later : ∀ actions,
    (again.steps actions).1.Alike (fresh.steps actions).1 ∧
      (again.steps actions).2 = (fresh.steps actions).2

theorem clearedFilter_of_listed {α : Type} {p : Pane α} (h : p.Listed) :
    p.clearedFilter = Category.all.key := by
  rw [Pane.clearedFilter]
  split
  case isTrue hcategories =>
    rw [Pane.Listed, hcategories] at h
    exact h.resolve_right List.not_mem_nil
  case isFalse => rfl

variable {folder : String} {loads : List (Except Failure Atlas)} {s : Screen}

theorem Showing.reload_ok (h : Showing folder loads s) (hlisted : s.members.Listed) (a : Atlas) :
    s.reload (.ok a) =
      atlasScreen folder a none s.members.title Category.all.key emptyDetail (some .contracts) := by
  obtain ⟨notice, hcontracts⟩ := h.contracts_eq
  have hmembers : s.members.placeholder = "Select a contract" := by rw [h.members_eq]; rfl
  rw [Explorer.reload_ok hcontracts hmembers, h.folder_eq, clearedFilter_of_listed hlisted]

theorem Showing.reload_error (h : Showing folder loads s) (hlisted : s.members.Listed)
    {failure : Failure} {report : Report} (hreport : failure.report? = some report) :
    s.reload (.error failure) =
      errorScreen folder report.text (lastAtlas? loads) s.members.title Category.all.key s.focused := by
  obtain ⟨notice, hcontracts⟩ := h.contracts_eq
  have hmembers : s.members.placeholder = "Select a contract" := by rw [h.members_eq]; rfl
  rw [Explorer.reload_error hcontracts hmembers hreport, h.folder_eq, clearedFilter_of_listed hlisted]

theorem opened_ok (folder : String) (a : Atlas) :
    Screen.opened folder (.ok a) =
      atlasScreen folder a none "Members" Category.all.key emptyDetail (some .contracts) := rfl

theorem opened_error {failure : Failure} {report : Report} (hreport : failure.report? = some report) :
    Screen.opened folder (.error failure) =
      errorScreen folder report.text none "Members" Category.all.key none := by
  have hcontracts : ({ folder := folder } : Screen).contracts = contractsPane none none := rfl
  exact Explorer.reload_error hcontracts rfl hreport

/-- After the same load the screen is alike to a new one. -/
theorem Showing.alike_opened (h : Showing folder loads s) (hlisted : s.members.Listed)
    {result : Except Failure Atlas} (hload : Foreseen result) :
    (s.reload result).Alike (.opened folder result) := by
  cases result with
  | ok a =>
    rw [h.reload_ok hlisted, opened_ok]
    exact .varied (s := atlasScreen folder a none "Members" Category.all.key emptyDetail
      (some .contracts)) s.members.title (some .contracts) (.inl rfl)
  | error failure =>
    obtain ⟨report, hreport⟩ := Option.ne_none_iff_exists'.mp (hload failure rfl)
    rw [h.reload_error hlisted hreport, opened_error hreport]
    exact .varied (s := errorScreen folder report.text none "Members" Category.all.key none)
      s.members.title s.focused (.inr (by simp [errorScreen, contractsPane]))

theorem Showing.restarts (h : Showing folder loads s) (hlisted : s.members.Listed)
    {result : Except Failure Atlas} (hload : Foreseen result) :
    s.Restarts result (s.reload result) (.opened folder result) := by
  have halike := h.alike_opened hlisted hload
  have hrows := halike.contracts_rows
  have htexts := halike.contracts_texts
  have hlater := halike.steps
  cases result with
  | ok a =>
    rw [h.reload_ok hlisted, opened_ok] at hrows htexts hlater ⊢
    exact {
      folder := rfl, subTitle := rfl, atlas := rfl, selected := rfl, stats := rfl, title := rfl
      rows := hrows, texts := htexts, categories := rfl, options := rfl, filter := rfl
      filterShown := rfl, members := rfl, detail := rfl, focused := rfl
      entries := fun _ => rfl, later := hlater }
  | error failure =>
    obtain ⟨report, hreport⟩ := Option.ne_none_iff_exists'.mp (hload failure rfl)
    rw [h.reload_error hlisted hreport, opened_error hreport] at hrows htexts hlater ⊢
    exact {
      folder := rfl, subTitle := rfl, atlas := rfl, selected := rfl, stats := rfl, title := rfl
      rows := hrows, texts := htexts, categories := rfl, options := rfl, filter := rfl
      filterShown := rfl, members := rfl, detail := rfl, focused := rfl
      entries := by simp [Except.isOk, Except.toBool], later := hlater }

theorem Showing.reload_twice (h : Showing folder loads s) (hlisted : s.members.Listed)
    {result : Except Failure Atlas} (hload : Foreseen result)
    (hnames : ∀ a, result = .ok a → a.WellNamed) :
    (s.reload result).reload result = s.reload result := by
  -- the first of the two loads is the last one before the second
  have hagain := h.reload hload hnames
  have hlisted' := reload_listed hlisted result
  cases result with
  | ok a =>
    rw [hagain.reload_ok hlisted', h.reload_ok hlisted]
    rfl
  | error failure =>
    obtain ⟨report, hreport⟩ := Option.ne_none_iff_exists'.mp (hload failure rfl)
    rw [hagain.reload_error hlisted' hreport, h.reload_error hlisted hreport]
    rfl

/-! ## Runs -/

variable {search : Disk.Search} {strict : Bool} {e : ExplorerSession}

/-- A refresh is the load of a new explorer, shown on the screen that is there. -/
theorem refreshExplorer_eq (h : Run Screen.Offers folder search strict loads e) (w : Workspace) :
    w.refreshExplorer e =
      ((w.openExplorer folder search strict).1,
        { e with screen := e.screen.reload (w.openExplorer folder search strict).2.2 },
        (w.openExplorer folder search strict).2.2) := by
  obtain ⟨rfl, rfl⟩ := h.session
  obtain rfl := h.showing.folder_eq
  rfl

theorem openExplorer_result {w w' : Workspace} (hdisk : w'.disk = w.disk) :
    (w'.openExplorer folder search strict).2.2 = (w.openExplorer folder search strict).2.2 := by
  change (Atlas.build w'.disk folder search strict).1 = (Atlas.build w.disk folder search strict).1
  rw [hdisk]

/-- After any run, a refresh is set against a new explorer in the same workspace. Both load the same,
leave the same records and show the same, now and whatever is done later, but for the title over the
members and, if the load fails, the focus. A second refresh on the same disk changes nothing. -/
theorem run_refresh (h : Run Screen.Offers folder search strict loads e) (w : Workspace)
    (hload : Foreseen (w.openExplorer folder search strict).2.2) :
    let again := w.refreshExplorer e
    let fresh := w.openExplorer folder search strict
    again.1 = fresh.1 ∧ again.2.2 = fresh.2.2 ∧
      e.screen.Restarts fresh.2.2 again.2.1.screen fresh.2.1.screen ∧
      (e.screen.step (.refresh fresh.2.2)).2 = none ∧
      ∀ w' : Workspace, w'.disk = w.disk → (w'.refreshExplorer again.2.1).2 = again.2 := by
  have hrefresh := refreshExplorer_eq h w
  have hscreen : (w.refreshExplorer e).2.1.screen =
      e.screen.reload (w.openExplorer folder search strict).2.2 := by rw [hrefresh]
  refine ⟨by rw [hrefresh], by rw [hrefresh], ?_, rfl, ?_⟩
  · rw [hscreen]
    exact h.showing.restarts h.listed hload
  · intro w' hdisk
    have hagain := h.refreshed w (by rwa [hrefresh])
    have htwice := h.showing.reload_twice h.listed hload fun a ha => Atlas.wellNamed_of_build ha
    rw [refreshExplorer_eq hagain w', openExplorer_result hdisk, hscreen, htwice, hrefresh]

/-- The ledger is opened, its document is emptied, and a refresh fails: the screen is that of a new
explorer that fails too, but for the title over the members and the focus. -/
theorem run_refresh_ledger :
    let again := ((shelf []).refreshExplorer ledgerSession).2.1.screen
    let fresh := ((shelf []).openExplorer "d" {} true).2.1.screen
    Run Screen.Offers "d" {} true [.ok Atlas.ledgerAtlas] ledgerSession ∧
      Foreseen ((shelf []).openExplorer "d" {} true).2.2 ∧
      again.contracts.texts = fresh.contracts.texts ∧
      again.contracts.options = [.all] ∧ fresh.contracts.options = [.all] ∧
      again.members = { fresh.members with title := "Members of Ledger" } ∧
      again.focused = some .members := by
  obtain ⟨failure, hresult, hforeseen⟩ := load_blank
  have hload : Foreseen ((shelf []).openExplorer "d" {} true).2.2 := by rwa [hresult]
  obtain ⟨_, _, hrestarts, _⟩ := run_refresh run_ledger (shelf []) hload
  have hoptions := hrestarts.options
  have hfocused := hrestarts.focused
  have hmembers := hrestarts.members
  rw [hresult] at hfocused
  obtain ⟨report, hreport⟩ := Option.ne_none_iff_exists'.mp (hforeseen failure rfl)
  have hfresh : ((shelf []).openExplorer "d" {} true).2.1.screen =
      errorScreen "d" report.text none "Members" Category.all.key none := by
    rw [← opened_error hreport, ← hresult]
    rfl
  have hall : ((shelf []).openExplorer "d" {} true).2.1.screen.contracts.options = [.all] := by
    rw [hfresh]
    rfl
  exact ⟨run_ledger, hload, hrestarts.texts, hoptions.trans hall, hall, hmembers, hfocused⟩

end ContractAtlas.Explorer

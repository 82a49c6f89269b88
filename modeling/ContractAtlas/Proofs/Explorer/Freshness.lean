import ContractAtlas.Proofs.Atlas.Totals
import ContractAtlas.Proofs.Explorer.Run

/-!
No screen shows anything that is out of date (`run_fresh`). Whatever has been done by hand and however
the documents have changed, all that it shows or lets choose is of the atlas that the last load has
brought, and nothing is if that load failed. The statistics are told from the contracts themselves
(`statistics_eq`).
-/
namespace ContractAtlas.Explorer
set_option autoImplicit false

/-! ## Statistics -/

/-- A line for each counted kind of which the contracts have members: how many they have together. -/
def totalLines (a : Atlas) : List String :=
  (Section.counted.filter fun kind => a.sectionTotal kind ≠ 0).map fun kind =>
    kind.key ++ ": [green]" ++ toString (a.sectionTotal kind) ++ "[/green]"

/-- How many documents were skipped, and a line for each. -/
def skippedLines (a : Atlas) : List String :=
  ("[bold]Skipped " ++ toString a.skipped.length ++ " file(s):[/bold]") ::
    a.skipped.map fun s => Text.escape (s.path ++ ": " ++ s.error.message)

/-- The texts of the panel: the number of names, the folder, then the totals and the skipped documents,
each where there are any. -/
def panelTexts (a : Atlas) (folder : String) : List String :=
  [toString a.names.length ++ " contract(s)", "[dim]" ++ Text.escape folder ++ "[/dim]"] ++
    (if totalLines a = [] then [] else [String.intercalate "\n" (totalLines a)]) ++
    (if a.skipped = [] then [] else [String.intercalate "\n" (skippedLines a)])

theorem styled_eq {style opening closing : String} (hopening : "[" ++ style ++ "]" = opening)
    (hclosing : "[/" ++ style ++ "]" = closing) (text : String) :
    Text.styled style text = opening ++ text ++ closing := by
  rw [Text.styled, ← hopening, ← hclosing]
  simp only [String.append_assoc]

theorem countLines_totals (a : Atlas) : countLines a.totals = totalLines a := by
  by_cases hne : a.contracts = []
  · -- without contracts there are no totals, and every section is empty
    have hlist : a.toList = [] := by simpa [Atlas.toList] using hne
    have hzero (kind : Section) : a.sectionTotal kind = 0 := by simp [Atlas.sectionTotal, hlist]
    simp [countLines, totalLines, Atlas.totals, hlist, hzero]
  · rw [countLines, Atlas.totals_eq hne, List.filter_map, List.map_map]
    refine List.map_congr_left fun kind _ => ?_
    change kind.key ++ ": " ++ Text.styled "green" _ = _
    rw [styled_eq (by decide : _ = "[green]") (by decide : _ = "[/green]")]
    simp only [String.append_assoc]
    rfl

theorem skippedText_eq {a : Atlas} (h : a.skipped ≠ []) :
    skippedText a.skipped = String.intercalate "\n" (skippedLines a) := by
  have hopening : "[bold]Skipped " = "[bold]" ++ "Skipped " := by decide
  have hclosing : " file(s):[/bold]" = " file(s):" ++ "[/bold]" := by decide
  have hlines : (a.skipped.map fun s => Text.escape (s.path ++ ": " ++ s.error.message)) ≠ [] := by
    simpa using h
  rw [skippedLines, String.intercalate_cons_of_ne_nil hlines, hopening, hclosing, skippedText,
    joinLines, styled_eq (by decide : _ = "[bold]") (by decide : _ = "[/bold]")]
  simp only [String.append_assoc, Skipped.text]

/-- The panel of an atlas, told without the totals of the program. -/
theorem statistics_eq (a : Atlas) (folder : String) : statistics a folder = panelTexts a folder := by
  have hsize : a.size = a.names.length := by
    rw [Atlas.names, List.length_mergeSort, Atlas.keys, List.length_map, Atlas.size]
  rw [statistics, panelTexts, countLines_totals, hsize,
    styled_eq (by decide : _ = "[dim]") (by decide : _ = "[/dim]")]
  by_cases hskipped : a.skipped = []
  · simp [hskipped, joinLines]
  · simp [hskipped, joinLines, skippedText_eq]

/-! ## Statements about a screen -/

/-- The screen is that of an atlas: its names can be chosen, in order, and its statistics stand beside. -/
structure Screen.Displays (s : Screen) (folder : String) (a : Atlas) : Prop where
  atlas : s.atlas = some a
  rows : s.contracts.rows.map Row.payload = a.names
  texts : s.contracts.texts =
    if a.names = [] then ["No contracts found"] else a.names.map Text.escape
  sorted : a.names.Pairwise (· < ·)
  names : ∀ name, name ∈ a.names ↔ a.contains name = true
  stats : s.stats = panelTexts a folder
  subTitle : s.subTitle = folder

/-- The screen is that of a failed load: there is nothing to choose but the error to read. -/
structure Screen.Fails (s : Screen) (message : String) : Prop where
  atlas : s.atlas = none
  selected : s.selected = none
  contracts : s.contracts.rows = []
  members : s.members.rows = []
  texts : s.contracts.texts = [errorNotice message]
  stats : s.stats = [errorNotice message]
  subTitle : s.subTitle = "Load failed"

/-- All that the screen shows and all that can be opened from it belongs to the result of one load. -/
structure Screen.Fresh (s : Screen) (folder : String) (result : Except Failure Atlas) : Prop where
  loaded : ∀ a, result = .ok a → s.Displays folder a
  failed : ∀ failure, result = .error failure →
    ∃ report, failure.report? = some report ∧ s.Fails report.text
  selected : ∀ c, s.selected = some c → (∃ a, s.atlas = some a ∧ a.get? c.name = some c) ∧
    s.members.entries = c.sections.flatMap fun (kind, members) =>
      members.map fun m => { label := m.label, payload := m, category := kind.key }
  unselected : s.selected = none → s.members.entries = [] ∧ s.members.categories = []
  detail : s.detail = emptyDetail ∨ ∃ a, s.atlas = some a ∧ TellsOf a s.detail
  view : ∀ list index view, (s.select list index).2 = some view →
    ∃ c, s.selected = some c ∧ ∃ kind, ∃ m ∈ c.members kind, view = ⟨m.label, m.detail⟩

/-! ## Screens that show something -/

theorem rows_contractsPane (a : Atlas) : (contractsPane (some a) none).rows = nameRows a := rfl

theorem texts_contractsPane (a : Atlas) :
    (contractsPane (some a) none).texts =
      if a.names = [] then ["No contracts found"] else a.names.map Text.escape := by
  have htexts : (contractsPane (some a) none).texts =
      if (nameRows a).isEmpty then ["No contracts found"] else (nameRows a).map Row.markup := rfl
  rw [htexts, nameRows]
  cases a.names with
  | nil => rfl
  | cons name names =>
    rw [List.map_map]
    rfl

variable {folder : String} {s : Screen}

theorem atlasScreen_displays {a : Atlas} (hnames : a.WellNamed) (selected : Option Contract)
    (title filter detail : String) (focused : Option ListName) :
    (atlasScreen folder a selected title filter detail focused).Displays folder a where
  atlas := rfl
  rows := by
    rw [atlasScreen, rows_contractsPane, nameRows, List.map_map]
    exact List.map_id _
  texts := texts_contractsPane a
  sorted := Atlas.names_sorted hnames.nodup
  names name := by rw [Atlas.mem_names, Atlas.contains_iff_mem_keys]
  stats := statistics_eq a folder
  subTitle := rfl

theorem errorScreen_fails (message : String) (filled : Option Atlas) (title filter : String)
    (focused : Option ListName) :
    (errorScreen folder message filled title filter focused).Fails message where
  atlas := rfl
  selected := rfl
  contracts := rfl
  members := ite_self []
  texts := rfl
  stats := rfl
  subTitle := rfl

theorem view_of_membersPane {title filter : String}
    (hmembers : s.members = membersPane title s.selected filter) {list : ListName} {index : Nat}
    {view : FullView} (h : (s.select list index).2 = some view) :
    ∃ c, s.selected = some c ∧ ∃ kind, ∃ m ∈ c.members kind, view = ⟨m.label, m.detail⟩ := by
  cases list with
  | contracts => cases h
  | members =>
    rw [Screen.select, hmembers] at h
    obtain ⟨m, hm, rfl⟩ := Option.map_eq_some_iff.mp h
    obtain ⟨c, hc, kind, hkind⟩ := choose?_membersPane hm
    exact ⟨c, hc, kind, m, hkind, rfl⟩

theorem Showing.fresh {last : Except Failure Atlas} {earlier : List (Except Failure Atlas)}
    (h : Showing folder (last :: earlier) s) : s.Fresh folder last := by
  cases h with
  | @atlas a selected detail _ title filter focused hnames hselected hdetail =>
    exact {
      loaded := by
        rintro _ ⟨⟩
        exact atlasScreen_displays hnames _ _ _ _ _
      failed := by simp
      selected := by
        rintro c ⟨⟩
        exact ⟨⟨a, rfl, hselected c rfl⟩, rfl⟩
      unselected := by
        rintro ⟨⟩
        exact ⟨rfl, rfl⟩
      detail := hdetail.imp_right fun htells => ⟨a, rfl, htells⟩
      view := fun _ _ _ => view_of_membersPane rfl }
  | @error failure report _ title filter focused hreport =>
    exact {
      loaded := by simp
      failed := by
        rintro _ ⟨⟩
        exact ⟨report, hreport, errorScreen_fails _ _ _ _ _⟩
      selected := by
        rintro c ⟨⟩
      unselected := fun _ => ⟨rfl, rfl⟩
      detail := .inl rfl
      view := fun _ _ _ => view_of_membersPane rfl }

/-! ## Runs -/

/-- Along every run, with any filters picked, the screen shows the result of the last load. -/
theorem run_fresh {search : Disk.Search} {strict : Bool} {last : Except Failure Atlas}
    {earlier : List (Except Failure Atlas)} {e : ExplorerSession}
    (h : Run Screen.Allows folder search strict (last :: earlier) e) : e.screen.Fresh folder last :=
  h.showing.fresh

/-- The ledger is opened; then its document is emptied, and a refresh clears the screen. -/
theorem run_fresh_ledger :
    ledgerSession.screen.selected = some Atlas.ledger ∧
      ledgerSession.screen.contracts.rows.map Row.payload = ["Ledger"] ∧
      ledgerSession.screen.stats =
        ["1 contract(s)", "[dim]d[/dim]", "events: [green]1[/green]\nenums: [green]1[/green]"] ∧
      ∃ failure, Foreseen (.error failure) ∧
        let again := ((shelf []).refreshExplorer ledgerSession).2.1
        Run Screen.Allows "d" {} true [.error failure, .ok Atlas.ledgerAtlas] again ∧
        again.screen.selected = none ∧ again.screen.contracts.rows = [] ∧
        again.screen.detail = emptyDetail := by
  have hrun : Run Screen.Allows "d" {} true [.ok Atlas.ledgerAtlas] ledgerSession :=
    run_ledger.mono fun _ _ _ => trivial
  have hfresh := run_fresh hrun
  obtain ⟨failure, hresult, hforeseen⟩ := load_blank
  have hrefreshed : ((shelf []).refreshExplorer ledgerSession).2.2 = .error failure := hresult
  have hagain := hrun.refreshed (shelf []) (by rwa [hrefreshed])
  rw [hrefreshed] at hagain
  obtain ⟨report, _, hfails⟩ := (run_fresh hagain).failed failure rfl
  refine ⟨rfl, ?_, ?_, failure, hforeseen, hagain, hfails.selected, hfails.contracts, ?_⟩
  · rw [(hfresh.loaded _ rfl).rows, Atlas.names_ledgerAtlas]
  · rw [(hfresh.loaded _ rfl).stats, panelTexts, Atlas.names_ledgerAtlas]
    decide
  · obtain hdetail | ⟨a, ha, _⟩ := (run_fresh hagain).detail
    · exact hdetail
    · rw [hfails.atlas] at ha
      cases ha

end ContractAtlas.Explorer

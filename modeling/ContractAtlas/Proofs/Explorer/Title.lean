import ContractAtlas.Proofs.Explorer.Run

/-!
The title of the list of members (`run_title`). Opening a contract and going back set the title along
with the selection, but a load only takes the selection away. So the title names the contract that is
selected, if one is. If none is, it is bare, unless a contract was open when the documents were loaded
and none has been opened since (`Abandoned`); then it still names that one, and going back does not help.
-/
namespace ContractAtlas.Explorer
set_option autoImplicit false

/-! ## Steps -/

section Steps

variable {s : Screen}

theorem reload_selected (s : Screen) (result : Except Failure Atlas) :
    (s.reload result).selected = none := by
  cases result with
  | ok a => rfl
  | error failure =>
    rw [Screen.reload]
    split <;> rfl

theorem reload_title (s : Screen) (result : Except Failure Atlas) :
    (s.reload result).members.title = s.members.title := by
  rw [reload_members]
  rfl

/-- How the selection and the title of the members come out of a step by hand. -/
inductive Screen.Retitles (before after : Screen) : Prop
  | kept (hselected : after.selected = before.selected)
      (htitle : after.members.title = before.members.title)
  | opened (c : Contract) (hselected : after.selected = some c)
      (htitle : after.members.title = "Members of " ++ c.name)
  | left (hbefore : before.selected ≠ none) (hselected : after.selected = none)
      (htitle : after.members.title = "Members")

theorem showContract_retitles (s : Screen) (name : String) : s.Retitles (s.showContract name) := by
  rw [Screen.showContract]
  split
  case h_1 => exact .kept rfl rfl
  case h_2 => exact .kept rfl rfl

theorem openContract_retitles (s : Screen) (name : String) : s.Retitles (s.openContract name) := by
  rw [Screen.openContract]
  split
  case h_1 => exact .kept rfl rfl
  case h_2 c _ => exact .opened c rfl rfl

theorem back_selected (s : Screen) : s.back.selected = none := by
  rw [Screen.back]
  split
  case isTrue hnone => simpa using hnone
  case isFalse => rfl

theorem back_retitles (s : Screen) : s.Retitles s.back := by
  rw [Screen.back]
  split
  case isTrue => exact .kept rfl rfl
  case isFalse hopen =>
    have hbefore : s.selected ≠ none := by simpa using hopen
    exact .left hbefore rfl rfl

theorem step_retitles (s : Screen) {action : Screen.Action} (hmanual : action.isManual = true) :
    s.Retitles (s.step action).1 := by
  cases action with
  | highlight list index =>
    cases list with
    | contracts =>
      exact choice_induction (P := s.Retitles) (.kept rfl rfl) fun name _ =>
        showContract_retitles s name
    | members => exact choice_induction (P := s.Retitles) (.kept rfl rfl) fun _ _ => .kept rfl rfl
  | select list index =>
    cases list with
    | contracts =>
      exact choice_induction (P := s.Retitles) (.kept rfl rfl) fun name _ =>
        openContract_retitles s name
    | members => exact .kept rfl rfl
  | filter key => exact .kept rfl rfl
  | back => exact back_retitles s
  | refresh result => cases hmanual

end Steps

/-! ## Contracts that were left open -/

/-- At the end of a run no contract is selected, as the documents were loaded while one of this name
was, and none has been opened since. -/
inductive Abandoned (picks : Screen → Screen.Action → Prop) (folder : String) (search : Disk.Search)
    (strict : Bool) (name : String) : List (Except Failure Atlas) → ExplorerSession → Prop
  | refreshed (w : Workspace) {loads : List (Except Failure Atlas)} {e : ExplorerSession} {c : Contract}
      (before : Run picks folder search strict loads e) (hselected : e.screen.selected = some c)
      (hname : c.name = name) (hload : Foreseen (w.refreshExplorer e).2.2) :
      Abandoned picks folder search strict name ((w.refreshExplorer e).2.2 :: loads)
        (w.refreshExplorer e).2.1
  | refreshedAgain (w : Workspace) {loads : List (Except Failure Atlas)} {e : ExplorerSession}
      (before : Abandoned picks folder search strict name loads e)
      (hload : Foreseen (w.refreshExplorer e).2.2) :
      Abandoned picks folder search strict name ((w.refreshExplorer e).2.2 :: loads)
        (w.refreshExplorer e).2.1
  | acted {action : Screen.Action} {loads : List (Except Failure Atlas)} {e : ExplorerSession}
      (before : Abandoned picks folder search strict name loads e) (hmanual : action.isManual = true)
      (hpicked : picks e.screen action) (hselected : (e.act action).screen.selected = none) :
      Abandoned picks folder search strict name loads (e.act action)

/-! ## Runs -/

variable {picks : Screen → Screen.Action → Prop} {folder : String} {search : Disk.Search}
  {strict : Bool} {loads : List (Except Failure Atlas)} {e : ExplorerSession}

theorem Run.title_of_selected (h : Run picks folder search strict loads e) {c : Contract}
    (hselected : e.screen.selected = some c) : e.screen.members.title = "Members of " ++ c.name := by
  induction h with
  | opened w hload =>
    have hnone := reload_selected { folder := folder } (w.openExplorer folder search strict).2.2
    cases hnone.symm.trans hselected
  | @refreshed w loads e before hload ih =>
    have hnone := reload_selected e.screen (w.refreshExplorer e).2.2
    cases hnone.symm.trans hselected
  | @acted action loads e before hmanual hpicked ih =>
    cases step_retitles e.screen hmanual with
    | kept hkept htitle => exact htitle.trans (ih (hkept.symm.trans hselected))
    | opened opened hopened htitle =>
      have heq : some opened = some c := hopened.symm.trans hselected
      cases heq
      exact htitle
    | left _ hnone _ => cases hnone.symm.trans hselected

theorem Abandoned.selected_and_title {name : String}
    (h : Abandoned picks folder search strict name loads e) :
    e.screen.selected = none ∧ e.screen.members.title = "Members of " ++ name := by
  induction h with
  | @refreshed w loads e c before hselected hname hload =>
    have htitle := reload_title e.screen (w.refreshExplorer e).2.2
    rw [before.title_of_selected hselected, hname] at htitle
    exact ⟨reload_selected e.screen _, htitle⟩
  | @refreshedAgain w loads e before hload ih =>
    have htitle := reload_title e.screen (w.refreshExplorer e).2.2
    exact ⟨reload_selected e.screen _, htitle.trans ih.2⟩
  | @acted action loads e before hmanual hpicked hselected ih =>
    refine ⟨hselected, ?_⟩
    cases step_retitles e.screen hmanual with
    | kept _ htitle => exact htitle.trans ih.2
    | opened c hopened _ => cases hselected.symm.trans hopened
    | left hbefore _ _ => exact absurd ih.1 hbefore

/-- Where no contract is selected, the title is bare or names one that was left open. -/
theorem Run.title_of_unselected (h : Run picks folder search strict loads e)
    (hselected : e.screen.selected = none) :
    e.screen.members.title = "Members" ∨
      ∃ name, Abandoned picks folder search strict name loads e := by
  induction h with
  | opened w hload =>
    have htitle := reload_title { folder := folder } (w.openExplorer folder search strict).2.2
    exact .inl htitle
  | @refreshed w loads e before hload ih =>
    -- a contract that is open now is left open; else the title is as it was
    cases hopen : e.screen.selected with
    | some c => exact .inr ⟨c.name, .refreshed w before hopen rfl hload⟩
    | none =>
      have htitle := reload_title e.screen (w.refreshExplorer e).2.2
      obtain hbare | ⟨name, habandoned⟩ := ih hopen
      · exact .inl (htitle.trans hbare)
      · exact .inr ⟨name, .refreshedAgain w habandoned hload⟩
  | @acted action loads e before hmanual hpicked ih =>
    cases step_retitles e.screen hmanual with
    | kept hkept htitle =>
      obtain hbare | ⟨name, habandoned⟩ := ih (hkept.symm.trans hselected)
      · exact .inl (htitle.trans hbare)
      · exact .inr ⟨name, .acted habandoned hmanual hpicked hselected⟩
    | opened c hopened _ => cases hselected.symm.trans hopened
    | left _ _ htitle => exact .inl htitle

theorem title_ne_bare (name : String) : "Members of " ++ name ≠ "Members" := by
  intro heq
  have hlength := congrArg String.length heq
  rw [String.length_append] at hlength
  have hlong : "Members of ".length = 11 := rfl
  have hshort : "Members".length = 7 := rfl
  omega

/-- Along every run, the title of the members names the contract that is selected. If none is, the title
is bare exactly if no contract was left open, and names exactly the one that was. -/
theorem run_title (h : Run picks folder search strict loads e) :
    match e.screen.selected with
    | some c => e.screen.members.title = "Members of " ++ c.name
    | none =>
      (e.screen.members.title = "Members" ↔
        ∀ name, ¬Abandoned picks folder search strict name loads e) ∧
      ∀ name, e.screen.members.title = "Members of " ++ name ↔
        Abandoned picks folder search strict name loads e := by
  cases hselected : e.screen.selected with
  | some c => exact h.title_of_selected hselected
  | none =>
    refine ⟨?_, ?_⟩
    · constructor
      · intro hbare name habandoned
        exact title_ne_bare name (habandoned.selected_and_title.2.symm.trans hbare)
      · intro hno
        obtain hbare | ⟨name, habandoned⟩ := h.title_of_unselected hselected
        · exact hbare
        · exact absurd habandoned (hno name)
    · intro name
      refine ⟨?_, fun habandoned => habandoned.selected_and_title.2⟩
      intro htitle
      obtain hbare | ⟨other, habandoned⟩ := h.title_of_unselected hselected
      · exact absurd (htitle.symm.trans hbare) (title_ne_bare name)
      · have heq := htitle.symm.trans habandoned.selected_and_title.2
        rw [String.append_right_inj] at heq
        exact heq ▸ habandoned

/-- The ledger is opened and its document is emptied. After a refresh nothing is selected, but the title
still names the ledger, and going back leaves it so. -/
theorem run_title_ledger :
    ledgerSession.screen.selected = some Atlas.ledger ∧
      ledgerSession.screen.members.title = "Members of Ledger" ∧
      let again := (((shelf []).refreshExplorer ledgerSession).2.1).act .back
      ∃ loads, Run Screen.Allows "d" {} true loads again ∧ again.screen.selected = none ∧
        again.screen.members.title = "Members of Ledger" := by
  have hrun : Run Screen.Allows "d" {} true [.ok Atlas.ledgerAtlas] ledgerSession :=
    run_ledger.mono fun _ _ _ => trivial
  obtain ⟨failure, hresult, hforeseen⟩ := load_blank
  have hrefreshed : ((shelf []).refreshExplorer ledgerSession).2.2 = .error failure := hresult
  have hload : Foreseen ((shelf []).refreshExplorer ledgerSession).2.2 := by rwa [hrefreshed]
  have habandoned : Abandoned Screen.Allows "d" {} true "Ledger" _ _ :=
    .refreshed (shelf []) hrun rfl rfl hload
  have hmanual : Screen.Action.back.isManual = true := rfl
  have hagain := (hrun.refreshed (shelf []) hload).acted hmanual trivial
  have hback := back_selected ((shelf []).refreshExplorer ledgerSession).2.1.screen
  have htitle := run_title hagain
  dsimp only [ExplorerSession.act, Screen.step] at htitle
  rw [hback] at htitle
  exact ⟨rfl, run_title hrun, _, hagain, hback,
    (htitle.2 "Ledger").mpr (.acted habandoned hmanual trivial hback)⟩

end ContractAtlas.Explorer

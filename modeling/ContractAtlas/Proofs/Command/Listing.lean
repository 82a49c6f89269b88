import ContractAtlas.Proofs.Atlas.Rack
import ContractAtlas.Proofs.Command.Configuration

/-!
Printing the listing of a folder. It closes an open log file before anything is logged, and opens none,
so that the disk stays as it is; what is printed is the listing of the atlas that is built from the
folder, and nothing if there is none (`run_list`).
-/
namespace ContractAtlas.Command
set_option autoImplicit false

variable {w : Workspace} {words : List String} {o : Options} {s : Settings}

/-! ## The log -/

/-- Without a log file, records leave the disk as it is. -/
theorem record_of_noFile (h : w.sinks.file = none) (log : List Log.Record) : w.record log = w := by
  rw [Workspace.record, Log.Sinks.record, h]

theorem setUpLog_noFile (w : Workspace) (debug : Bool) : ∃ sinks : Log.Sinks, sinks.file = none ∧
    w.setUpLog (some debug) (some "") = ({ w with sinks }, .ok ()) :=
  ⟨_, rfl, rfl⟩

/-! ## What is listed -/

/-- The folder that a listing is of: the one named, unless its name is empty, else that of the
settings. -/
inductive NamesFolder (o : Options) (s : Settings) : String → Prop
  | given {folder : String} (h : o.folder = some folder) (hne : folder ≠ "") : NamesFolder o s folder
  | fromSettings {folder : String} (hnone : ∀ given, o.folder = some given → given = "")
      (h : s.dataFolder = .str folder) : NamesFolder o s folder

theorem namesFolder_iff {folder : String} :
    NamesFolder o s folder ↔ (sourceOf o s).folder = .str folder := by
  rw [sourceOf]
  cases hfolder : o.folder.filter (· ≠ "") with
  | none =>
    have hnone : ∀ given, o.folder = some given → given = "" := by
      simpa using Option.filter_eq_none_iff.mp hfolder
    constructor
    · rintro (⟨hgiven, hne⟩ | ⟨_, h⟩)
      · exact absurd (hnone _ hgiven) hne
      · exact h
    · exact .fromSettings hnone
  | some given =>
    obtain ⟨hgiven, hne⟩ := Option.filter_eq_some_iff.mp hfolder
    have hne : given ≠ "" := by simpa using hne
    constructor
    · rintro (⟨hother, _⟩ | ⟨hnone, _⟩)
      · rw [Option.some.inj (hother.symm.trans hgiven)]
        rfl
      · exact absurd (hnone _ hgiven) hne
    · intro heq
      obtain rfl := Yaml.str.inj heq
      exact .given hgiven hne

section Builds

variable (d : Disk) (env : Environment) (o : Options)

/-- The build of the atlas of a folder: recursive and strict as far as the settings say so and no flag
speaks against it. -/
def buildOf (s : Settings) (folder : String) : Except Failure Atlas :=
  (Atlas.build d folder ⟨suffixOf s.extension, s.recursive.isTruthy && !o.noRecursive⟩
    (s.strict.isTruthy && !o.lenient)).1

/-- The atlas of the folder that is to be listed. -/
def Lists (a : Atlas) : Prop :=
  ∃ s folder, Settings.load d env = .ok s ∧ NamesFolder o s folder ∧ buildOf d o s folder = .ok a

/-- Why there is no such atlas, and what is said before the error: the settings cannot be loaded, the
folder is named by no text, or the build fails. -/
inductive Fails : Failure → String → Prop
  | settings {failure : Failure} (hload : Settings.load d env = .error failure) :
      Fails failure "Error loading configuration: "
  | noFolder {s : Settings} (hload : Settings.load d env = .ok s)
      (hnone : ∀ folder, ¬NamesFolder o s folder) :
      Fails .folderNotText "Error parsing contract files: "
  | build {s : Settings} {folder : String} {failure : Failure} (hload : Settings.load d env = .ok s)
      (hfolder : NamesFolder o s folder) (hbuild : buildOf d o s folder = .error failure) :
      Fails failure "Error parsing contract files: "

inductive Listed : Except Failure Outcome → Prop
  | printed {a : Atlas} (h : Lists d env o a) (err : String) :
      Listed (.ok { code := 0, out := a.listing ++ "\n", err })
  | reported {failure : Failure} {opening : String} {report : Report} (h : Fails d env o failure opening)
      (hreport : failure.report? = some report) (before : String) :
      Listed (.ok { code := 1, out := "", err := before ++ opening ++ report.text ++ "\n" })
  | stopped {failure : Failure} {opening : String} (h : Fails d env o failure opening)
      (hreport : failure.report? = none) : Listed (.error failure)

end Builds

theorem NamesFolder.unique {folder other : String} (h : NamesFolder o s folder)
    (hother : NamesFolder o s other) : folder = other :=
  Yaml.str.inj ((namesFolder_iff.mp h).symm.trans (namesFolder_iff.mp hother))

variable {d : Disk} {env : Environment}

theorem Lists.unique {a b : Atlas} (ha : Lists d env o a) (hb : Lists d env o b) : a = b := by
  obtain ⟨s, folder, hload, hfolder, ha⟩ := ha
  obtain ⟨s', folder', hload', hfolder', hb⟩ := hb
  obtain rfl := Except.ok.inj (hload.symm.trans hload')
  obtain rfl := hfolder.unique hfolder'
  exact Except.ok.inj (ha.symm.trans hb)

theorem Lists.not_fails {a : Atlas} (h : Lists d env o a) {failure : Failure} {opening : String} :
    ¬Fails d env o failure opening := by
  obtain ⟨s, folder, hload, hfolder, ha⟩ := h
  rintro (hfail | ⟨hload', hnone⟩ | ⟨hload', hfolder', hfail⟩)
  · cases hload.symm.trans hfail
  · obtain rfl := Except.ok.inj (hload.symm.trans hload')
    exact hnone folder hfolder
  · obtain rfl := Except.ok.inj (hload.symm.trans hload')
    obtain rfl := hfolder.unique hfolder'
    cases ha.symm.trans hfail

/-! ## Printing it -/

theorem isTruthy_unlessFlag (value : Yaml) (against : Bool) :
    (unlessFlag value against).isTruthy = (value.isTruthy && !against) := by
  unfold unlessFlag
  cases h : value.isTruthy
  · simp [h]
  · simp [Yaml.isTruthy]

theorem build_sourceOf (hfile : w.sinks.file = none) {folder : String}
    (hfolder : NamesFolder o s folder) : ∃ log,
      (sourceOf o s).build w = (w, buildOf w.disk o s folder, log) := by
  have hsearch : (sourceOf o s).search =
      ⟨suffixOf s.extension, s.recursive.isTruthy && !o.noRecursive⟩ := by
    rw [Source.search, sourceOf, isTruthy_unlessFlag]
  have hstrict : (sourceOf o s).strict.isTruthy = (s.strict.isTruthy && !o.lenient) :=
    isTruthy_unlessFlag s.strict o.lenient
  rw [Source.build, namesFolder_iff.mp hfolder]
  dsimp only
  rw [Workspace.build, hsearch, hstrict]
  simp only [record_of_noFile hfile]
  exact ⟨_, rfl⟩

theorem build_sourceOf_of_noFolder (hnone : ∀ folder, ¬NamesFolder o s folder) :
    (sourceOf o s).build w = (w, .error .folderNotText, []) := by
  unfold Source.build
  split
  case h_1 folder hfolder => exact absurd (namesFolder_iff.mpr hfolder) (hnone folder)
  case h_2 => rfl

section Printing

variable {source : Source} {failure : Failure} {log : List Log.Record}

theorem listing_of_ok {a : Atlas} (hbuild : source.build w = (w, .ok a, log)) :
    listing w source = (w, .ok { out := a.listing ++ "\n", err := w.shown log }) := by
  rw [listing, hbuild]

theorem listing_of_report (hfile : w.sinks.file = none)
    (hbuild : source.build w = (w, .error failure, log)) {report : Report}
    (hreport : failure.report? = some report) :
    listing w source = (w, .ok (.failed
      (w.shown (log ++ [failedRecord report]) ++ (failedRecord report).message ++ "\n"))) := by
  simp only [listing, hbuild, hreport, record_of_noFile hfile]

theorem listing_of_unforeseen (hbuild : source.build w = (w, .error failure, log))
    (hreport : failure.report? = none) : listing w source = (w, .error failure) := by
  simp only [listing, hbuild, hreport]

end Printing

/-- Printing leaves the whole workspace as it is. -/
theorem listing_listed (hfile : w.sinks.file = none)
    (hload : Settings.load w.disk w.environment = .ok s) : ∃ result,
      listing w (sourceOf o s) = (w, result) ∧ Listed w.disk w.environment o result := by
  -- the settings may name the folder by something that is no text
  by_cases hnamed : ∃ folder, NamesFolder o s folder
  · obtain ⟨folder, hfolder⟩ := hnamed
    obtain ⟨log, hbuild⟩ := build_sourceOf hfile hfolder
    cases hresult : buildOf w.disk o s folder with
    | ok a =>
      rw [hresult] at hbuild
      exact ⟨_, listing_of_ok hbuild, .printed ⟨s, folder, hload, hfolder, hresult⟩ _⟩
    | error failure =>
      rw [hresult] at hbuild
      have hfails := Fails.build hload hfolder hresult
      cases hreport : failure.report? with
      | none => exact ⟨_, listing_of_unforeseen hbuild hreport, .stopped hfails hreport⟩
      | some report =>
        refine ⟨_, listing_of_report hfile hbuild hreport, ?_⟩
        rw [failedRecord, ← String.append_assoc]
        exact .reported hfails hreport _
  · have hnone : ∀ folder, ¬NamesFolder o s folder := fun folder h => hnamed ⟨folder, h⟩
    have hbuild := build_sourceOf_of_noFolder (w := w) hnone
    exact ⟨_, listing_of_unforeseen hbuild rfl, .stopped (.noFolder hload hnone) rfl⟩

theorem runWith_list (hlist : o.list = true) : ∃ sinks : Log.Sinks, sinks.file = none ∧
    runWith w o s = listing { w with sinks } (sourceOf o s) := by
  obtain ⟨sinks, hfile, hset⟩ := setUpLog_noFile w (o.debug || s.debug.isTruthy)
  refine ⟨sinks, hfile, ?_⟩
  simp only [runWith, hlist, if_true]
  rw [hset]

theorem run_listed (hparse : parse words = .run o) (hlist : o.list = true)
    (hinit : o.initConfig = false) :
    (run w words).1.disk = w.disk ∧ Listed w.disk w.environment o (run w words).2 := by
  cases hload : Settings.load w.disk w.environment with
  | ok s =>
    obtain ⟨sinks, hfile, hrun⟩ := runWith_list (w := w) (s := s) hlist
    rw [run_of_settings hparse hinit hload, hrun]
    obtain ⟨result, hresult, hlisted⟩ := listing_listed (o := o) (w := { w with sinks }) hfile hload
    rw [hresult]
    exact ⟨rfl, hlisted⟩
  | error failure =>
    have hfails : Fails w.disk w.environment o failure _ := .settings hload
    cases hreport : failure.report? with
    | none =>
      rw [run_of_unforeseen hparse hinit hload hreport]
      exact ⟨rfl, .stopped hfails hreport⟩
    | some report =>
      rw [run_of_report hparse hinit hload hreport]
      exact ⟨rfl, .reported hfails hreport ""⟩

/-- Printing a listing changes nothing on the disk. If it comes to an end, it has printed the listing
of the atlas of the folder exactly where there is one, and else nothing but an error. -/
theorem run_list (hparse : parse words = .run o) (hlist : o.list = true)
    (hinit : o.initConfig = false) :
    (run w words).1.disk = w.disk ∧
      (∀ a, Lists w.disk w.environment o a → ∃ err,
        (run w words).2 = .ok { code := 0, out := a.listing ++ "\n", err }) ∧
      ∀ outcome, (run w words).2 = .ok outcome → (∀ a, ¬Lists w.disk w.environment o a) →
        ∃ failure opening report before, Fails w.disk w.environment o failure opening ∧
          failure.report? = some report ∧
          outcome = { code := 1, out := "", err := before ++ opening ++ report.text ++ "\n" } := by
  obtain ⟨hdisk, hlisted⟩ := run_listed (w := w) hparse hlist hinit
  generalize (run w words).2 = result at hlisted
  refine ⟨hdisk, fun a ha => ?_, fun outcome houtcome hnone => ?_⟩
  · cases hlisted with
    | printed hb err =>
      rw [ha.unique hb]
      exact ⟨err, rfl⟩
    | reported hfails => exact absurd hfails ha.not_fails
    | stopped hfails => exact absurd hfails ha.not_fails
  · cases hlisted with
    | printed hb => exact absurd hb (hnone _)
    | reported hfails hreport before =>
      exact ⟨_, _, _, before, hfails, hreport, (Except.ok.inj houtcome).symm⟩
    | stopped => cases houtcome

/-! ## A folder with one document -/

/-- The document itself is open as a log file. -/
def ledgerWorkspace : Workspace where
  disk := Atlas.rack (Atlas.single Atlas.ledgerContent)
  environment := listEnvironment
  sinks := { file := some ⟨0, ["d", "a.json"], .debug⟩ }
  stamp := "TIME"

theorem load_ledgerWorkspace :
    Settings.load ledgerWorkspace.disk ledgerWorkspace.environment = .ok {} := by
  have hnone : loadConfiguration ledgerWorkspace.disk ledgerWorkspace.environment = .ok (.map []) :=
    Settings.loadConfiguration_of_noDesk rfl rfl
  rw [Settings.load_of_configuration hnone]
  rfl

theorem lists_ledgerWorkspace : Lists ledgerWorkspace.disk ledgerWorkspace.environment
    { folder := some "d", list := true, debug := true } Atlas.ledgerAtlas :=
  ⟨{}, "d", load_ledgerWorkspace, .given rfl (by decide), Atlas.build_ledger true⟩

theorem listing_ledgerAtlas : Atlas.ledgerAtlas.listing = "Ledger (1 events, 1 enums)" := by
  rw [Atlas.listing, Atlas.listingLines, Atlas.names_ledgerAtlas]
  decide

theorem run_list_ledger : (run ledgerWorkspace ["d", "--list", "--debug"]).1.disk =
      ledgerWorkspace.disk ∧ ∃ err, (run ledgerWorkspace ["d", "--list", "--debug"]).2 =
        .ok { code := 0, out := "Ledger (1 events, 1 enums)\n", err } := by
  have hparse : parse ["d", "--list", "--debug"] =
      .run { folder := some "d", list := true, debug := true } := by
    decide
  obtain ⟨hdisk, hprinted, _⟩ := run_list (w := ledgerWorkspace) hparse rfl rfl
  obtain ⟨err, hresult⟩ := hprinted _ lists_ledgerWorkspace
  rw [listing_ledgerAtlas] at hresult
  exact ⟨hdisk, err, hresult⟩

end ContractAtlas.Command

import ContractAtlas.Proofs.Disk.Sound
import ContractAtlas.Proofs.Disk.Faults
import ContractAtlas.Proofs.Text.Encoding
import ContractAtlas.Proofs.Yaml.Keyed
import ContractAtlas.Settings.Basic

/-!
How loading the settings can end. The place of the configuration file may be out of reach, its text may
be no YAML or no mapping, and its section for the explorer may be no mapping. Two of these are reported
(`Refused`), the others are not foreseen (`Stopped`); where neither happens there are settings
(`load_ending`).
-/
namespace ContractAtlas
set_option autoImplicit false
open Disk

/-! ## Asking for a file -/

namespace Disk

variable {d : Disk} {p : Path}

theorem exists?_of_read {content : List UInt8} (h : d.read p = .ok content) :
    d.exists? p = .ok true := by
  unfold read at h
  split at h
  case h_1 => cases h
  case h_2 found hl =>
    have hsome : found.entry.isSome := by
      split at h
      case h_1 hfile => rw [hfile]; rfl
      all_goals cases h
    obtain ⟨e, he⟩ := Option.isSome_iff_exists.mp hsome
    rw [exists?, ask, hl]
    dsimp only
    rw [he]
    rfl

/-- Only of a name that is too long it cannot be told whether something is there. -/
theorem exists?_error {fault : Fault} (h : d.exists? p = .error fault) :
    d.locate .goal p = .error .nameTooLong ∧ fault = .nameTooLong := by
  unfold exists? ask at h
  split at h
  case h_1 => cases h
  case h_2 met hl =>
    split at h
    case isTrue => cases h
    case isFalse habsent =>
      obtain rfl := Except.error.inj h
      obtain hmeans | rfl := locate_goal_error hl
      · exact absurd hmeans habsent
      · exact ⟨hl, rfl⟩

/-- A path is free if its first folder is missing. -/
theorem exists?_of_missing {name : String} {rest : List String} (hrest : rest ≠ [])
    (hnames : ∀ part ∈ name :: rest, IsName part)
    (hshort : (Path.mk "" (name :: rest)).text.utf8ByteSize ≤ pathLimit)
    (hat : d.root.at? (d.here ++ [name]) = none) : d.exists? ⟨"", name :: rest⟩ = .ok false := by
  have hnull : (Path.mk "" (name :: rest)).hasNull = false := hasNull_of_isName hnames
  have hfind : d.locate .goal ⟨"", name :: rest⟩ = .error .notFound := by
    rw [locate, if_neg (by simp [hnull]), if_neg (Nat.not_lt.mpr hshort)]
    exact find_of_missing (hnames name List.mem_cons_self) hat hrest
  rw [exists?, ask, hfind]
  rfl

theorem exists?_nameTooLong (h : d.locate .goal p = .error .nameTooLong) :
    d.exists? p = .error .nameTooLong := by
  simp [exists?, ask, h, Fault.meansAbsent]

end Disk

/-! ## The place of the file -/

variable {d : Disk} {env : Environment}

/-- Nothing can take the place of a tilde with this behind it: no such user has a home folder, or the
home folder begins with a tilde itself. -/
def Homeless (env : Environment) (user : String) : Prop :=
  ∀ home, env.homeOf? user = some home → hasTilde (homeText home) = true

/-- The path of the program's folder begins with a tilde that stands for no known home folder. -/
def HomeUnknown (env : Environment) : Prop :=
  ∃ text first rest, env.value? dataPathVariable = some text ∧
    Path.ofString text = ⟨"", first :: rest⟩ ∧ hasTilde first = true ∧
      Homeless env (String.ofList first.toList.tail)

section Home

variable {first : String} {rest : List String}

theorem expandHome_absolute {root : String} (h : root ≠ "") (parts : List String) :
    expandHome env ⟨root, parts⟩ = .ok ⟨root, parts⟩ := by
  simp [expandHome, Path.isAbsolute, h]

theorem expandHome_plain (h : hasTilde first = false) :
    expandHome env ⟨"", first :: rest⟩ = .ok ⟨"", first :: rest⟩ := by
  simp [expandHome, Path.isAbsolute, h]

theorem expandHome_of_homeless (htilde : hasTilde first = true)
    (h : Homeless env (String.ofList first.toList.tail)) :
    expandHome env ⟨"", first :: rest⟩ = .error .noHome := by
  cases hhome : env.homeOf? (String.ofList first.toList.tail) with
  | none => simp [expandHome, Path.isAbsolute, htilde, hhome]
  | some home => simp [expandHome, Path.isAbsolute, htilde, hhome, h home hhome]

theorem expandHome_of_home {home : String} (htilde : hasTilde first = true)
    (hhome : env.homeOf? (String.ofList first.toList.tail) = some home)
    (h : hasTilde (homeText home) = false) :
    expandHome env ⟨"", first :: rest⟩ = .ok ((Path.ofString (homeText home)).append rest) := by
  simp [expandHome, Path.isAbsolute, htilde, hhome, h]

theorem expandHome_error {p : Path} {failure : Failure} (h : expandHome env p = .error failure) :
    failure = .noHome ∧ ∃ first rest, p = ⟨"", first :: rest⟩ ∧ hasTilde first = true ∧
      Homeless env (String.ofList first.toList.tail) := by
  obtain ⟨root, parts⟩ := p
  by_cases hroot : root = ""
  case neg =>
    rw [expandHome_absolute hroot] at h
    cases h
  subst hroot
  cases parts with
  | nil => cases h
  | cons first rest =>
    cases htilde : hasTilde first with
    | false =>
      rw [expandHome_plain htilde] at h
      cases h
    | true =>
      by_cases hhome : Homeless env (String.ofList first.toList.tail)
      case pos =>
        rw [expandHome_of_homeless htilde hhome] at h
        exact ⟨(Except.error.inj h).symm, first, rest, rfl, htilde, hhome⟩
      case neg =>
        rw [Homeless] at hhome
        push Not at hhome
        obtain ⟨home, hknown, hplain⟩ := hhome
        rw [expandHome_of_home htilde hknown (Bool.eq_false_iff.mpr hplain)] at h
        cases h

end Home

theorem configurationPath_of_homeUnknown (h : HomeUnknown env) :
    configurationPath env = .error .noHome := by
  obtain ⟨text, first, rest, hvalue, hpath, hfirst, hhome⟩ := h
  rw [configurationPath, dataPath, hvalue]
  dsimp only
  rw [hpath, expandHome_of_homeless hfirst hhome]
  rfl

theorem configurationPath_error {failure : Failure} (h : configurationPath env = .error failure) :
    failure = .noHome ∧ HomeUnknown env := by
  rw [configurationPath, dataPath] at h
  cases hvalue : env.value? dataPathVariable with
  | none =>
    rw [hvalue] at h
    cases h
  | some text =>
    rw [hvalue] at h
    dsimp only at h
    cases hexpand : expandHome env (.ofString text) with
    | ok path =>
      rw [hexpand] at h
      cases h
    | error met =>
      rw [hexpand] at h
      obtain rfl := Except.error.inj h
      obtain ⟨rfl, first, rest, hpath, hfirst, hhome⟩ := expandHome_error hexpand
      exact ⟨rfl, text, first, rest, hvalue, hpath, hfirst, hhome⟩

/-! ## The text of the file -/

section Loading

variable {path : Path} {config : Yaml}

theorem loadConfiguration_of_noPath {failure : Failure} (h : configurationPath env = .error failure) :
    loadConfiguration d env = .error failure := by
  rw [loadConfiguration, h]
  rfl

theorem loadConfiguration_of_fault {fault : Fault} (hpath : configurationPath env = .ok path)
    (h : d.exists? path = .error fault) : loadConfiguration d env = .error (.disk fault) := by
  rw [loadConfiguration, hpath]
  change (liftFault (d.exists? path) >>= _) = _
  rw [h]
  rfl

theorem loadConfiguration_of_absent (hpath : configurationPath env = .ok path)
    (h : d.exists? path = .ok false) : loadConfiguration d env = .ok (.map []) := by
  rw [loadConfiguration, hpath]
  change (liftFault (d.exists? path) >>= _) = _
  rw [h]
  rfl

theorem loadConfiguration_of_text {text : String} (hpath : configurationPath env = .ok path)
    (h : d.read path = .ok (Text.encode text)) :
    loadConfiguration d env = configurationOf env.room path (unifyLines text.toList) := by
  have htext : readText d path = .ok text.toList := by
    simp only [readText, h, liftFault, bind, Except.bind, Text.decodeUtf8_encode]
  rw [loadConfiguration, hpath]
  change (liftFault (d.exists? path) >>= _) = _
  rw [exists?_of_read h]
  change (readText d path >>= _) = _
  rw [htext]
  rfl

theorem configurationOf_ok {room : Nat} {text : List Char}
    (h : configurationOf room path text = .ok config) :
    config.Keyed ∧ ∃ entries, config = .map entries := by
  unfold configurationOf at h
  split at h
  case h_4 =>
    obtain rfl := Except.ok.inj h
    exact ⟨.empty, [], rfl⟩
  case h_5 entries hread =>
    obtain rfl := Except.ok.inj h
    exact ⟨Yaml.read_keyed hread, entries, rfl⟩
  all_goals cases h

/-- A configuration is a mapping with distinct keys, wherever it comes from. -/
theorem loadConfiguration_keyed (h : loadConfiguration d env = .ok config) :
    config.Keyed ∧ ∃ entries, config = .map entries := by
  obtain ⟨path, _, h⟩ := ok_of_bind h
  obtain ⟨there, _, h⟩ := ok_of_bind h
  cases there with
  | false =>
    obtain rfl := Except.ok.inj h
    exact ⟨.empty, [], rfl⟩
  | true =>
    obtain ⟨text, _, h⟩ := ok_of_bind h
    exact configurationOf_ok h

end Loading

/-! ## Settings -/

namespace Settings

/-- The text of the configuration file, where there is one. -/
def HasText (d : Disk) (env : Environment) (path : Path) (text : String) : Prop :=
  configurationPath env = .ok path ∧ d.read path = .ok (Text.encode text)

/-- The file is not there, or is a file of text. -/
def Legible (d : Disk) (env : Environment) : Prop :=
  ∀ path, configurationPath env = .ok path → d.exists? path = .ok true → ∃ text, HasText d env path text

/-- What is reported: the text is no YAML, or what it stands for is no mapping. -/
inductive Refused (d : Disk) (env : Environment) : ConfigurationError → Prop
  | badText {path : Path} {text : String} {fault : Yaml.Fault} (htext : HasText d env path text)
      (hread : Yaml.read env.room (unifyLines text.toList) = .error (.fault fault)) :
      Refused d env ⟨.badText fault, path.text⟩
  | notMapping {path : Path} {text : String} {value : Yaml} (htext : HasText d env path text)
      (hread : Yaml.read env.room (unifyLines text.toList) = .ok value) (hnull : value ≠ .null)
      (hmap : ∀ entries, value ≠ .map entries) : Refused d env ⟨.notMapping, path.text⟩

/-- What is not foreseen, and the failure that it ends in. -/
inductive Stopped (d : Disk) (env : Environment) : Failure → Prop
  | noHome (h : HomeUnknown env) : Stopped d env .noHome
  | longName {path : Path} (hpath : configurationPath env = .ok path)
      (h : d.locate .goal path = .error .nameTooLong) : Stopped d env (.disk .nameTooLong)
  | badScalar {path : Path} {text : String} {fault : Yaml.ValueFault} (htext : HasText d env path text)
      (hread : Yaml.read env.room (unifyLines text.toList) = .error (.value fault)) :
      Stopped d env (.badScalar fault)
  | tooDeep {path : Path} {text : String} (htext : HasText d env path text)
      (hread : Yaml.read env.room (unifyLines text.toList) = .error .tooDeep) :
      Stopped d env .tooDeep
  | badSection {config value : Yaml} (hload : loadConfiguration d env = .ok config)
      (hvalue : config.get? "explorer" = some value) (htruthy : value.isTruthy = true)
      (hmap : ∀ entries, value ≠ .map entries) : Stopped d env (.sectionNotMapping value.typeName)

theorem load_of_failure {failure : Failure} (h : loadConfiguration d env = .error failure) :
    load d env = .error failure := by
  rw [load, h]
  rfl

theorem load_of_configuration {config : Yaml} (h : loadConfiguration d env = .ok config) :
    load d env = merge config env := by
  rw [load, h]
  rfl

theorem HasText.loadConfiguration_eq {path : Path} {text : String} (h : HasText d env path text) :
    loadConfiguration d env = configurationOf env.room path (unifyLines text.toList) :=
  loadConfiguration_of_text h.1 h.2

/-- The section for the explorer, if it is a mapping or as good as not there. -/
inductive Explores (config : Yaml) : Yaml → Prop
  | entries {entries : List (Yaml × Yaml)} (h : config.get? "explorer" = some (.map entries)) :
      Explores config (.map entries)
  | empty (h : ∀ value, config.get? "explorer" = some value → value.isTruthy = false) :
      Explores config (.map [])

theorem Explores.section_eq {config part : Yaml} (h : Explores config part) :
    explorerSection config = .ok part := by
  unfold explorerSection
  cases h with
  | entries h => rw [h]
  | empty h =>
    split
    case h_1 => rfl
    case h_2 entries hvalue =>
      -- a mapping that counts as false has no entries
      have hempty : entries = [] := by simpa [Yaml.isTruthy] using h _ hvalue
      rw [hempty]
    case h_3 hvalue => rw [h _ hvalue, if_neg Bool.false_ne_true]

theorem explores_or_bad (config : Yaml) :
    (∃ part, Explores config part) ∨ ∃ value, config.get? "explorer" = some value ∧
      value.isTruthy = true ∧ ∀ entries, value ≠ .map entries := by
  cases hvalue : config.get? "explorer" with
  | none => exact .inl ⟨_, .empty fun value h => by rw [hvalue] at h; cases h⟩
  | some value =>
    by_cases hmap : ∃ entries, value = .map entries
    · obtain ⟨entries, rfl⟩ := hmap
      exact .inl ⟨_, .entries hvalue⟩
    · cases htruthy : value.isTruthy with
      | true => exact .inr ⟨value, rfl, htruthy, fun entries heq => hmap ⟨entries, heq⟩⟩
      | false =>
        refine .inl ⟨_, .empty fun other h => ?_⟩
        rw [hvalue] at h
        rwa [← Option.some.inj h]

/-- The settings that the sources amount to, from the last one to the first. -/
def merged (env : Environment) (config part : Yaml) : Settings :=
  ((({} : Settings).withSection part).withTopDebug config).withEnvironment env

theorem Explores.merge_eq {config part : Yaml} (h : Explores config part) (env : Environment) :
    merge config env = .ok (merged env config part) := by
  rw [merge, h.section_eq]
  rfl

theorem Explores.load_eq {config part : Yaml} (h : Explores config part)
    (hload : loadConfiguration d env = .ok config) : load d env = .ok (merged env config part) := by
  rw [load_of_configuration hload, h.merge_eq]

theorem explorerSection_error {config value : Yaml} (hvalue : config.get? "explorer" = some value)
    (htruthy : value.isTruthy = true) (hmap : ∀ entries, value ≠ .map entries) :
    explorerSection config = .error (.sectionNotMapping value.typeName) := by
  unfold explorerSection
  rw [hvalue]
  split
  case h_1 heq => cases heq
  case h_2 entries heq => exact absurd (Option.some.inj heq) (hmap entries)
  case h_3 heq =>
    obtain rfl := Option.some.inj heq
    exact if_pos htruthy

theorem Stopped.load_eq {failure : Failure} (h : Stopped d env failure) :
    load d env = .error failure := by
  cases h with
  | noHome h =>
    exact load_of_failure (loadConfiguration_of_noPath (configurationPath_of_homeUnknown h))
  | longName hpath h =>
    exact load_of_failure (loadConfiguration_of_fault hpath (exists?_nameTooLong h))
  | badScalar htext hread =>
    refine load_of_failure ?_
    rw [htext.loadConfiguration_eq, configurationOf, hread]
  | tooDeep htext hread =>
    refine load_of_failure ?_
    rw [htext.loadConfiguration_eq, configurationOf, hread]
  | badSection hload hvalue htruthy hmap =>
    rw [load_of_configuration hload, merge, explorerSection_error hvalue htruthy hmap]
    rfl

theorem Refused.load_eq {e : ConfigurationError} (h : Refused d env e) :
    load d env = .error (.configuration e) := by
  refine load_of_failure ?_
  cases h with
  | badText htext hread => rw [htext.loadConfiguration_eq, configurationOf, hread]
  | notMapping htext hread hnull hmap =>
    rw [htext.loadConfiguration_eq, configurationOf, hread]
    split
    case h_4 heq => exact absurd (Except.ok.inj heq) hnull
    case h_5 entries heq => exact absurd (Except.ok.inj heq) (hmap entries)
    case h_6 => rfl
    all_goals contradiction

theorem section_ending {config : Yaml} (hload : loadConfiguration d env = .ok config) :
    (∃ s, load d env = .ok s) ∨ ∃ failure, Stopped d env failure := by
  obtain ⟨part, hpart⟩ | ⟨value, hvalue, htruthy, hmap⟩ := explores_or_bad config
  · exact .inl ⟨_, hpart.load_eq hload⟩
  · exact .inr ⟨_, .badSection hload hvalue htruthy hmap⟩

theorem text_ending {path : Path} {text : String} (htext : HasText d env path text) :
    (∃ s, load d env = .ok s) ∨ (∃ e, Refused d env e) ∨ ∃ failure, Stopped d env failure := by
  have hload := htext.loadConfiguration_eq
  unfold configurationOf at hload
  split at hload
  case h_1 hread => exact .inr (.inl ⟨_, .badText htext hread⟩)
  case h_2 hread => exact .inr (.inr ⟨_, .badScalar htext hread⟩)
  case h_3 hread => exact .inr (.inr ⟨_, .tooDeep htext hread⟩)
  case h_4 => exact (section_ending hload).imp_right .inr
  case h_5 => exact (section_ending hload).imp_right .inr
  case h_6 value hnull hmap hread =>
    refine .inr (.inl ⟨_, .notMapping htext hread ?_ ?_⟩)
    · rintro rfl
      exact hnull rfl
    · rintro entries rfl
      exact hmap entries rfl

theorem load_ending (hfile : Legible d env) :
    (∃ s, load d env = .ok s) ∨ (∃ e, Refused d env e) ∨ ∃ failure, Stopped d env failure := by
  cases hpath : configurationPath env with
  | error failure =>
    obtain ⟨rfl, hhome⟩ := configurationPath_error hpath
    exact .inr (.inr ⟨_, .noHome hhome⟩)
  | ok path =>
    cases hthere : d.exists? path with
    | error fault =>
      obtain ⟨hlong, rfl⟩ := exists?_error hthere
      exact .inr (.inr ⟨_, .longName hpath hlong⟩)
    | ok there =>
      cases there with
      | false =>
        have hload := loadConfiguration_of_absent hpath hthere
        exact (section_ending hload).imp_right .inr
      | true =>
        obtain ⟨text, htext⟩ := hfile path hpath hthere
        exact text_ending htext

theorem Stopped.report?_eq {failure : Failure} (h : Stopped d env failure) : failure.report? = none := by
  cases h <;> rfl

/-- Loading gives settings or an error that is reported exactly where no unforeseen cause is there. -/
theorem unstopped_iff (hfile : Legible d env) : (∀ failure, ¬Stopped d env failure) ↔
    (∃ s, load d env = .ok s) ∨ ∃ e, load d env = .error (.configuration e) := by
  constructor
  · intro hnone
    obtain hs | ⟨e, hrefused⟩ | ⟨failure, hstopped⟩ := load_ending hfile
    · exact .inl hs
    · exact .inr ⟨e, hrefused.load_eq⟩
    · exact absurd hstopped (hnone failure)
  · rintro (⟨s, hs⟩ | ⟨e, he⟩) failure hstopped
    · cases hs.symm.trans hstopped.load_eq
    · have hreport := hstopped.report?_eq
      rw [← Except.error.inj (he.symm.trans hstopped.load_eq)] at hreport
      cases hreport

/-! ## A disk with the file -/

/-- A disk with nothing but the configuration file, in a folder of its own. -/
def desk (text : String) : Disk where
  root := .folder [("cfg", .folder [("config.yaml", .file 0 (Text.encode text))])]
  here := []
  nextId := 1

theorem configurationPath_desk (h : env.value? dataPathVariable = some "cfg") :
    configurationPath env = .ok ⟨"", ["cfg", "config.yaml"]⟩ := by
  have hparts : Path.ofString "cfg" = ⟨"", ["cfg"]⟩ := by decide
  rw [configurationPath, dataPath, h]
  dsimp only
  rw [hparts, expandHome_plain (by decide)]
  rfl

theorem isName_desk : ∀ name ∈ ["cfg", "config.yaml"], IsName name := by
  have hfolder : IsName "cfg" := by constructor <;> decide
  have hfile : IsName "config.yaml" := by constructor <;> decide
  simpa using And.intro hfolder hfile

theorem hasText_desk (text : String) (h : env.value? dataPathVariable = some "cfg") :
    HasText (desk text) env ⟨"", ["cfg", "config.yaml"]⟩ text := by
  have hat : (desk text).root.at? ["cfg", "config.yaml"] = some (.file 0 (Text.encode text)) := rfl
  refine ⟨configurationPath_desk h, ?_⟩
  rw [Disk.read, locate_of_at? isName_desk (by decide) hat (by simp)]

theorem loadConfiguration_of_noDesk (h : env.value? dataPathVariable = some "cfg")
    (hat : d.root.at? (d.here ++ ["cfg"]) = none) : loadConfiguration d env = .ok (.map []) :=
  loadConfiguration_of_absent (configurationPath_desk h)
    (exists?_of_missing (by simp) isName_desk (by decide) hat)

theorem legible_desk (text : String) (h : env.value? dataPathVariable = some "cfg") :
    Legible (desk text) env := by
  intro path hpath _
  obtain rfl := Except.ok.inj ((configurationPath_desk h).symm.trans hpath)
  exact ⟨text, hasText_desk text h⟩

end Settings

end ContractAtlas

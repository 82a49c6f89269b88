import ContractAtlas.Proofs.Settings.Configuration
import ContractAtlas.Proofs.Text.LetterCase

/-!
Where the value of a setting comes from. Each key has its sources in order, and the first that sets it
counts (`firstSet`), whatever the sources of the other keys say. There is one exception: where the top of
the file holds nothing for debugging this counts as a value (`DebugNulled`), and hides what the section
for the explorer says.
-/
namespace ContractAtlas.Settings
set_option autoImplicit false

/-! ## Keys -/

inductive Key where
  | dataFolder
  | extension
  | recursive
  | strict
  | debug
  deriving DecidableEq

def Key.all : List Key := [.dataFolder, .extension, .recursive, .strict, .debug]

def Key.name : Key → String
  | .dataFolder => "data_folder"
  | .extension => "extension"
  | .recursive => "recursive"
  | .strict => "strict"
  | .debug => "debug"

def Key.envName? : Key → Option String
  | .dataFolder => some dataFolderVariable
  | .strict => some strictVariable
  | .debug => some debugVariable
  | .extension | .recursive => none

def value (s : Settings) : Key → Yaml
  | .dataFolder => s.dataFolder
  | .extension => s.extension
  | .recursive => s.recursive
  | .strict => s.strict
  | .debug => s.debug

theorem entries_eq (s : Settings) : s.entries = Key.all.map fun key => (key.name, s.value key) := rfl

theorem eq_of_value {s t : Settings} (h : ∀ key, s.value key = t.value key) : s = t := by
  obtain ⟨_, _, _, _, _⟩ := s
  obtain ⟨_, _, _, _, _⟩ := t
  congr
  · exact h .dataFolder
  · exact h .extension
  · exact h .recursive
  · exact h .strict
  · exact h .debug

/-! ## Words for yes -/

/-- One of the words for yes, in any letter case. -/
def SaysYes (text : String) : Prop :=
  ∃ word ∈ ["true", "1", "yes"], text.toList.map Char.toLower = word.toList

instance (text : String) : Decidable (SaysYes text) :=
  inferInstanceAs (Decidable (∃ word ∈ _, _))

theorem isUnshared_of_yes :
    ∀ word ∈ ["true", "1", "yes"], ∀ x ∈ word.toList, Text.isUnshared x = true := by
  have hall : ∀ word ∈ ["true", "1", "yes"], word.toList.all Text.isUnshared = true := by decide
  exact fun word hword => List.all_eq_true.mp (hall word hword)

theorem meansYes_eq (text : String) : meansYes text = decide (SaysYes text) := by
  rw [Bool.eq_iff_iff, meansYes, List.contains_iff_mem, decide_eq_true_iff]
  constructor
  · intro h
    exact ⟨Text.lower text, h, (Text.lower_eq_iff (isUnshared_of_yes _ h) text).mp rfl⟩
  · rintro ⟨word, hword, hspelled⟩
    rwa [(Text.lower_eq_iff (isUnshared_of_yes word hword) text).mpr hspelled]

/-! ## Sources -/

def readVariable : Key → String → Yaml
  | .dataFolder, text => .str text
  | _, text => .bool (decide (SaysYes text))

/-- What the environment sets a key to; an empty variable sets nothing. -/
def fromEnvironment (env : Environment) (key : Key) : Option Yaml :=
  (key.envName?.bind env.value?).map (readVariable key)

/-- The value of an entry, unless it is missing or null. -/
def setBy (part : Yaml) (name : String) : Option Yaml :=
  (part.get? name).filter fun value => !value.isNull

/-- What the top of the file sets a key to, which can only be debugging. -/
def fromTop (config : Yaml) : Key → Option Yaml
  | .debug => (setBy config "debug").map fun value => .bool value.isTruthy
  | _ => none

def fromSection (part : Yaml) (key : Key) : Option Yaml := setBy part key.name

/-- The value from the first source that sets a key. -/
def firstSet (env : Environment) (config part : Yaml) (key : Key) : Yaml :=
  (((fromEnvironment env key).or (fromTop config key)).or (fromSection part key)).getD
    (({} : Settings).value key)

/-- The top of the file holds null for debugging, and the environment does not decide about it. -/
def DebugNulled (env : Environment) (config : Yaml) : Prop :=
  config.get? "debug" = some .null ∧ env.value? debugVariable = none

/-! ## Merging -/

variable {env : Environment} {config part : Yaml}

theorem value_withEnvironment (s : Settings) (env : Environment) (key : Key) :
    (s.withEnvironment env).value key = (fromEnvironment env key).getD (s.value key) := by
  cases key with
  | strict | debug =>
    simp only [value, withEnvironment, meansYes_eq]
    rfl
  | _ => rfl

theorem value_withSection (s : Settings) (part : Yaml) (key : Key) :
    (s.withSection part).value key = (fromSection part key).getD (s.value key) := by
  cases key <;> rfl

theorem value_withTopDebug_of_ne (s : Settings) (config : Yaml) {key : Key} (h : key ≠ .debug) :
    (s.withTopDebug config).value key = s.value key := by
  unfold withTopDebug
  split
  case h_1 =>
    cases key with
    | debug => exact absurd rfl h
    | _ => rfl
  case h_2 => rfl

theorem value_withTopDebug (s : Settings) (config : Yaml) {key : Key}
    (h : key = .debug → config.get? "debug" ≠ some .null) :
    (s.withTopDebug config).value key = (fromTop config key).getD (s.value key) := by
  cases key with
  | debug =>
    unfold withTopDebug
    cases hdebug : config.get? "debug" with
    | none =>
      rw [fromTop, setBy, hdebug]
      rfl
    | some given =>
      have hnull : given.isNull = false := by
        cases given with
        | null => exact absurd hdebug (h rfl)
        | _ => rfl
      rw [fromTop, setBy, hdebug, Option.filter_some_pos (by simp [hnull])]
      rfl
  | _ => exact value_withTopDebug_of_ne s config (by simp)

theorem value_withTopDebug_congr {s t : Settings} {config' : Yaml} {key : Key}
    (htop : key = .debug → config'.get? "debug" = config.get? "debug")
    (h : s.value key = t.value key) :
    (s.withTopDebug config').value key = (t.withTopDebug config).value key := by
  by_cases hkey : key = .debug
  · subst hkey
    rw [withTopDebug, withTopDebug, htop rfl]
    cases config.get? "debug" with
    | none => exact h
    | some given => rfl
  · rw [value_withTopDebug_of_ne s config' hkey, value_withTopDebug_of_ne t config hkey, h]

/-- Each value is that of the first source, but for the exception. -/
theorem value_merged {key : Key} (h : key = .debug → ¬DebugNulled env config) :
    (merged env config part).value key = firstSet env config part key := by
  rw [merged, value_withEnvironment, firstSet]
  cases hset : fromEnvironment env key with
  | some given => rfl
  | none =>
    -- where the variable is not set, a null at the top would be the exception
    have htop : key = .debug → config.get? "debug" ≠ some .null := by
      rintro rfl hnull
      refine h rfl ⟨hnull, ?_⟩
      simpa [fromEnvironment, Key.envName?] using hset
    rw [Option.getD_none, value_withTopDebug _ _ htop, value_withSection, Option.none_or]
    cases fromTop config key <;> rfl

theorem debug_merged (h : DebugNulled env config) :
    (merged env config part).debug = .bool false := by
  obtain ⟨hnull, hvariable⟩ := h
  simp [merged, withEnvironment, withTopDebug, hnull, hvariable, Yaml.isTruthy]

/-! ## What says nothing -/

/-- An entry that says nothing: it holds null, or its key is not one of those that are known. -/
def Superfluous (known : List String) (e : Yaml × Yaml) : Prop :=
  e.2.isNull = true ∨ ∀ name ∈ known, e.1 ≠ .str name

theorem setBy_keep {y : Yaml} (h : y.Keyed) {known : List String} {passes : Yaml × Yaml → Bool}
    (hpasses : ∀ e, passes e = false → Superfluous known e) {name : String} (hname : name ∈ known) :
    setBy (y.keep passes) name = setBy y name := by
  rw [setBy, setBy, Yaml.get?_keep h, Option.filter_filter]
  congr 1
  funext given
  cases hpass : passes (.str name, given) with
  | true => simp
  | false =>
    obtain hnull | hunknown := hpasses _ hpass
    · simp [show given.isNull = true from hnull]
    · exact absurd rfl (hunknown name hname)

/-- A configuration of which only some entries are left, at its top and in its section for the
explorer. -/
def prune (top inner : Yaml × Yaml → Bool) (config : Yaml) : Yaml :=
  (config.change "explorer" (Yaml.keep inner)).keep top

structure Prunes (top inner : Yaml × Yaml → Bool) : Prop where
  top : ∀ e, top e = false → Superfluous ["explorer", "debug"] e
  inner : ∀ e, inner e = false → Superfluous (Key.all.map Key.name) e

theorem Explores.keyed (h : Explores config part) (hconfig : config.Keyed) : part.Keyed := by
  cases h with
  | empty => exact .empty
  | entries h =>
    cases config with
    | map settings => exact hconfig.entries.2 _ ((Yaml.get?_eq_some_iff hconfig).mp h)
    | _ => cases h

theorem isTruthy_keep {y : Yaml} (h : y.isTruthy = false) (passes : Yaml × Yaml → Bool) :
    (y.keep passes).isTruthy = false := by
  cases y with
  | map entries =>
    have hempty : entries = [] := by simpa [Yaml.isTruthy] using h
    rw [hempty]
    rfl
  | _ => exact h

section Pruning

variable {top inner : Yaml × Yaml → Bool}

theorem keyed_change_explorer (hconfig : config.Keyed) (inner : Yaml × Yaml → Bool) :
    (config.change "explorer" (Yaml.keep inner)).Keyed :=
  hconfig.change fun _ hvalue => hvalue.keep inner

theorem get?_prune (hconfig : config.Keyed) (top inner : Yaml × Yaml → Bool) (name : String) :
    (prune top inner config).get? name =
      (if name = "explorer" then (config.get? "explorer").map (Yaml.keep inner)
        else config.get? name).filter fun value => top (.str name, value) := by
  rw [prune, Yaml.get?_keep (keyed_change_explorer hconfig inner), Yaml.get?_change]

theorem Explores.prune (h : Explores config part) (hconfig : config.Keyed)
    (hprunes : Prunes top inner) : Explores (prune top inner config) (part.keep inner) := by
  have hexplorer := get?_prune hconfig top inner "explorer"
  rw [if_pos rfl] at hexplorer
  cases h with
  | @entries entries h =>
    refine .entries ?_
    -- a section is no null, and its key is known, so that it stays
    have hstays : top (.str "explorer", (Yaml.map entries).keep inner) = true := by
      rw [← Bool.not_eq_false]
      intro hdropped
      obtain hnull | hunknown := hprunes.top _ hdropped
      · cases hnull
      · exact absurd rfl (hunknown "explorer" (by simp))
    rw [hexplorer, h]
    exact Option.filter_some_pos hstays
  | empty h =>
    refine .empty fun value hvalue => ?_
    rw [hexplorer] at hvalue
    obtain ⟨hkept, _⟩ := Option.filter_eq_some_iff.mp hvalue
    obtain ⟨old, hold, rfl⟩ := Option.map_eq_some_iff.mp hkept
    exact isTruthy_keep (h old hold) inner

theorem fromSection_keep (hpart : part.Keyed) (hprunes : Prunes top inner) (key : Key) :
    fromSection (part.keep inner) key = fromSection part key :=
  setBy_keep hpart hprunes.inner (List.mem_map_of_mem (by cases key <;> decide))

theorem fromTop_prune (hconfig : config.Keyed) (hprunes : Prunes top inner) (key : Key) :
    fromTop (prune top inner config) key = fromTop config key := by
  cases key with
  | debug =>
    have hset : setBy (Settings.prune top inner config) "debug" = setBy config "debug" := by
      rw [Settings.prune, setBy_keep (keyed_change_explorer hconfig inner) hprunes.top (by simp),
        setBy, Yaml.get?_change]
      rfl
    rw [fromTop, hset]
    rfl
  | _ => rfl

theorem firstSet_prune (hconfig : config.Keyed) (hpart : part.Keyed) (hprunes : Prunes top inner)
    (env : Environment) (key : Key) :
    firstSet env (prune top inner config) (part.keep inner) key = firstSet env config part key := by
  rw [firstSet, fromTop_prune hconfig hprunes, fromSection_keep hpart hprunes]
  rfl

theorem debugNulled_prune (hconfig : config.Keyed) :
    DebugNulled env (prune top inner config) ↔
      DebugNulled env config ∧ top (.str "debug", .null) = true := by
  rw [DebugNulled, get?_prune hconfig, if_neg (by decide), Option.filter_eq_some_iff, DebugNulled,
    and_right_comm]

theorem merged_prune (hconfig : config.Keyed) (hpart : Explores config part)
    (hprunes : Prunes top inner) (hkept : DebugNulled env config → top (.str "debug", .null) = true) :
    merged env (prune top inner config) (part.keep inner) = merged env config part := by
  refine eq_of_value fun key => ?_
  -- the exception stays with its entry, and all else has the same first source
  by_cases hnulled : key = .debug ∧ DebugNulled env config
  · obtain ⟨rfl, hnulled⟩ := hnulled
    have hstill : DebugNulled env (prune top inner config) :=
      (debugNulled_prune hconfig).mpr ⟨hnulled, hkept hnulled⟩
    exact (debug_merged hstill).trans (debug_merged hnulled).symm
  · have hbefore : key = .debug → ¬DebugNulled env config := fun hkey h => hnulled ⟨hkey, h⟩
    have hafter : key = .debug → ¬DebugNulled env (prune top inner config) := fun hkey h =>
      hbefore hkey ((debugNulled_prune hconfig).mp h).1
    rw [value_merged hafter, value_merged hbefore,
      firstSet_prune hconfig (hpart.keyed hconfig) hprunes]

/-- Without its entry the exception is gone, and debugging has the value that it should have had. -/
theorem merged_prune_of_dropped (hconfig : config.Keyed) (hpart : Explores config part)
    (hprunes : Prunes top inner) (hdropped : top (.str "debug", .null) = false) :
    merged env (prune top inner config) (part.keep inner) =
      { merged env config part with debug := firstSet env config part .debug } := by
  have hafter : ¬DebugNulled env (prune top inner config) := by
    rw [debugNulled_prune hconfig, hdropped]
    simp
  refine eq_of_value fun key => ?_
  rw [value_merged fun _ => hafter, firstSet_prune hconfig (hpart.keyed hconfig) hprunes]
  by_cases hkey : key = .debug
  · rw [hkey]
    rfl
  · rw [← value_merged fun heq => absurd heq hkey]
    cases key with
    | debug => exact absurd rfl hkey
    | _ => rfl

end Pruning

/-! ## Variables -/

theorem get?_unset (env : Environment) (name other : String) :
    (env.unset name).get? other = if other = name then none else env.get? other := by
  obtain ⟨home, values⟩ := env
  change (values.filter (·.1 ≠ name)).lookup other = if other = name then none else values.lookup other
  induction values with
  | nil => simp
  | cons entry rest ih =>
    obtain ⟨key, text⟩ := entry
    by_cases hkey : key = name
    · subst hkey
      rw [List.filter_cons_of_neg (by simp), ih, List.lookup_cons]
      by_cases hother : other = key
      · rw [if_pos hother, if_pos hother]
      · rw [if_neg hother, if_neg hother, beq_eq_false_iff_ne.mpr hother]
    · rw [List.filter_cons_of_pos (by simpa using hkey), List.lookup_cons, List.lookup_cons, ih]
      by_cases hother : other = key
      · subst hother
        simp [hkey]
      · rw [beq_eq_false_iff_ne.mpr hother]

theorem value?_unset {name : String} (h : env.get? name = some "") :
    (env.unset name).value? = env.value? := by
  funext other
  rw [Environment.value?, get?_unset, Environment.value?]
  split
  case isTrue hother =>
    rw [hother, h]
    rfl
  case isFalse => rfl

theorem fromEnvironment_unset {name : String} (h : env.get? name = some "") :
    fromEnvironment (env.unset name) = fromEnvironment env := by
  funext key
  rw [fromEnvironment, value?_unset h, fromEnvironment]

theorem withEnvironment_unset (s : Settings) {name : String} (h : env.get? name = some "") :
    s.withEnvironment (env.unset name) = s.withEnvironment env := by
  refine eq_of_value fun key => ?_
  rw [value_withEnvironment, fromEnvironment_unset h, value_withEnvironment]

theorem merge_unset (config : Yaml) {name : String} (h : env.get? name = some "") :
    merge config (env.unset name) = merge config env := by
  simp only [merge, withEnvironment_unset _ h]

/-- The home folder is the one variable that is read for the place of the file although it is empty. -/
theorem configurationPath_unset {name : String} (h : env.get? name = some "") (hhome : name ≠ "HOME") :
    configurationPath (env.unset name) = configurationPath env := by
  have hget : (env.unset name).get? "HOME" = env.get? "HOME" := by
    rw [get?_unset, if_neg hhome.symm]
  have hhomes : (env.unset name).homeOf? = env.homeOf? := by
    funext user
    rw [Environment.homeOf?, hget]
    rfl
  have hexpand : expandHome (env.unset name) = expandHome env := by
    funext p
    rw [expandHome, hhomes]
    rfl
  rw [configurationPath, dataPath, value?_unset h, hexpand]
  rfl

theorem load_unset (d : Disk) {name : String} (h : env.get? name = some "") (hhome : name ≠ "HOME") :
    load d (env.unset name) = load d env := by
  have hload : loadConfiguration d (env.unset name) = loadConfiguration d env := by
    rw [loadConfiguration, configurationPath_unset h hhome]
    rfl
  rw [load, hload]
  congr 1
  funext config
  exact merge_unset config h

/-! ## All sources -/

theorem value_merged_congr {env' : Environment} {config' part' : Yaml} {key : Key}
    (hvariable : ∀ name ∈ key.envName?, env'.get? name = env.get? name)
    (htop : key = .debug → config'.get? "debug" = config.get? "debug")
    (hsection : part'.get? key.name = part.get? key.name) :
    (merged env' config' part').value key = (merged env config part).value key := by
  have henvironment : fromEnvironment env' key = fromEnvironment env key := by
    rw [fromEnvironment, fromEnvironment]
    congr 1
    refine Option.bind_congr fun name hname => ?_
    rw [Environment.value?, hvariable name hname]
    rfl
  have hsame : fromSection part' key = fromSection part key := by
    rw [fromSection, setBy, hsection]
    rfl
  rw [merged, merged, value_withEnvironment, value_withEnvironment, henvironment]
  congr 1
  refine value_withTopDebug_congr htop ?_
  rw [value_withSection, value_withSection, hsame]

/-- What the sources settle about settings. -/
structure Sourced (env : Environment) (config part : Yaml) (s : Settings) : Prop where
  entries : s.entries = Key.all.map fun key => (key.name, s.value key)
  /-- The first source counts, but for the exception, where debugging is off. -/
  first : ∀ key, (key = .debug → ¬DebugNulled env config) → s.value key = firstSet env config part key
  nulled : DebugNulled env config → s.debug = .bool false
  /-- What says nothing can be dropped, as long as the exception stays. -/
  pruned : ∀ top inner, Prunes top inner →
    (DebugNulled env config → top (.str "debug", .null) = true) →
      merge (prune top inner config) env = .ok s
  unnulled : ∀ top inner, Prunes top inner → DebugNulled env config →
    top (.str "debug", .null) = false →
      merge (prune top inner config) env = .ok { s with debug := firstSet env config part .debug }
  unset : ∀ name, env.get? name = some "" → merge config (env.unset name) = .ok s
  /-- Where the sources of a key say the same, its value is the same, whatever the others say. -/
  apart : ∀ key env' config' part', Explores config' part' →
    (∀ name ∈ key.envName?, env'.get? name = env.get? name) →
    (key = .debug → config'.get? "debug" = config.get? "debug") →
    part'.get? key.name = part.get? key.name →
      ∃ t, merge config' env' = .ok t ∧ t.value key = s.value key

theorem sourced_merged (hconfig : config.Keyed) (hpart : Explores config part) :
    Sourced env config part (merged env config part) where
  entries := entries_eq _
  first _ h := value_merged h
  nulled h := debug_merged h
  pruned top inner hprunes hkept := by
    rw [(hpart.prune hconfig hprunes).merge_eq, merged_prune hconfig hpart hprunes hkept]
  unnulled top inner hprunes _ hdropped := by
    rw [(hpart.prune hconfig hprunes).merge_eq,
      merged_prune_of_dropped hconfig hpart hprunes hdropped]
  unset name h := by rw [merge_unset config h, hpart.merge_eq]
  apart key env' config' part' hpart' hvariable htop hsection :=
    ⟨_, hpart'.merge_eq env', value_merged_congr hvariable htop hsection⟩

/-- Whatever mapping the file holds, if its section for the explorer is a mapping or as good as not
there, there are settings, and each comes from the first source that sets it. -/
theorem load_sourced {d : Disk} (hload : loadConfiguration d env = .ok config)
    (hpart : Explores config part) : ∃ s, load d env = .ok s ∧ merge config env = .ok s ∧
      Sourced env config part s ∧
        ∀ name ≠ "HOME", env.get? name = some "" → load d (env.unset name) = .ok s := by
  have hmerge := hpart.merge_eq env
  have hs := hpart.load_eq hload
  obtain ⟨hkeyed, _⟩ := loadConfiguration_keyed hload
  refine ⟨_, hs, hmerge, sourced_merged hkeyed hpart, fun name hhome hempty => ?_⟩
  rw [load_unset d hempty hhome, hs]

/-! ## The exception in a file -/

def nulledText : String := "explorer:\n  strict: null\n  debug: true\ndebug: null\n"

def nulledSection : Yaml := .map [(.str "strict", .null), (.str "debug", .bool true)]

def nulledConfiguration : Yaml :=
  .map [(.str "explorer", nulledSection), (.str "debug", .null)]

def isNulled : Except Failure Yaml → Bool
  | .ok (.map [
      (.str "explorer", .map [(.str "strict", .null), (.str "debug", .bool true)]),
      (.str "debug", .null)]) => true
  | _ => false

/-- Where `strict` is set to no, and the folder of documents to nothing. -/
def nulledEnvironment : Environment where
  home := "/home"
  values := [(dataPathVariable, "cfg"), (strictVariable, "No"), (dataFolderVariable, "")]

theorem loadConfiguration_nulled :
    loadConfiguration (desk nulledText) nulledEnvironment = .ok nulledConfiguration := by
  have hread : isNulled (configurationOf nulledEnvironment.room ⟨"", ["cfg", "config.yaml"]⟩
      (unifyLines nulledText.toList)) = true := by
    decide +kernel
  rw [(hasText_desk nulledText rfl).loadConfiguration_eq]
  unfold isNulled at hread
  split at hread
  case h_1 heq => exact heq
  case h_2 => cases hread

theorem load_sourced_nulled :
    ∃ s, load (desk nulledText) nulledEnvironment = .ok s ∧ s.dataFolder = .str "data" ∧
      s.strict = .bool false ∧ s.debug = .bool false ∧
        firstSet nulledEnvironment nulledConfiguration nulledSection .debug = .bool true := by
  have hsection : Explores nulledConfiguration nulledSection := .entries rfl
  obtain ⟨s, hload, _, hsourced, _⟩ := load_sourced loadConfiguration_nulled hsection
  have hfolder := hsourced.first .dataFolder (fun heq => by cases heq)
  have hstrict := hsourced.first .strict (fun heq => by cases heq)
  exact ⟨s, hload, hfolder.trans rfl, hstrict.trans rfl, hsourced.nulled ⟨rfl, rfl⟩, rfl⟩

end ContractAtlas.Settings

import ContractAtlas.Command.Run
import ContractAtlas.Proofs.Settings.Configuration

/-!
A command line that needs settings. Where the configuration file cannot be used this is reported and
nothing else happens, unless it is one of the causes that are not foreseen (`run_configured`).
-/
namespace ContractAtlas.Command
set_option autoImplicit false

variable {w : Workspace} {words : List String} {o : Options}

/-! ## Up to the settings -/

section Running

variable (hparse : parse words = .run o) (hinit : o.initConfig = false)
include hparse hinit

theorem run_of_settings {s : Settings} (hload : Settings.load w.disk w.environment = .ok s) :
    run w words = runWith w o s := by
  simp only [run, hparse, runOptions, hinit, hload, Bool.false_eq_true, if_false]

theorem run_of_report {failure : Failure} {report : Report}
    (hload : Settings.load w.disk w.environment = .error failure)
    (hreport : failure.report? = some report) :
    run w words =
      (w, .ok (.failed ("Error loading configuration: " ++ report.text ++ "\n"))) := by
  simp only [run, hparse, runOptions, hinit, hload, hreport, Bool.false_eq_true, if_false]

theorem run_of_unforeseen {failure : Failure}
    (hload : Settings.load w.disk w.environment = .error failure) (hreport : failure.report? = none) :
    run w words = (w, .error failure) := by
  simp only [run, hparse, runOptions, hinit, hload, hreport, Bool.false_eq_true, if_false]

end Running

/-! ## The ending -/

/-- What a command line that needs settings comes to before it does anything else. -/
inductive Configured (w : Workspace) (o : Options) : Workspace × Except Failure Outcome → Prop
  | loaded {config : Yaml} {s : Settings} (hconfig : loadConfiguration w.disk w.environment = .ok config)
      (hmerge : Settings.merge config w.environment = .ok s)
      (hload : Settings.load w.disk w.environment = .ok s) : Configured w o (runWith w o s)
  | refused {e : ConfigurationError} (hrefused : Settings.Refused w.disk w.environment e)
      (hload : Settings.load w.disk w.environment = .error (.configuration e)) :
      Configured w o (w, .ok
        { code := 1, out := "", err := "Error loading configuration: " ++ e.report.text ++ "\n" })
  | stopped {failure : Failure} (hstopped : Settings.Stopped w.disk w.environment failure)
      (hload : Settings.load w.disk w.environment = .error failure) :
      Configured w o (w, .error failure)

/-- A file that cannot be used is reported, and nothing is printed or changed; this is so exactly
unless one of the causes is there that are not foreseen. -/
theorem run_configured (hparse : parse words = .run o) (hinit : o.initConfig = false)
    (hfile : Settings.Legible w.disk w.environment) :
    Configured w o (run w words) ∧
      ((∀ failure, ¬Settings.Stopped w.disk w.environment failure) ↔
        (∃ s, Settings.load w.disk w.environment = .ok s) ∨
          ∃ e, Settings.load w.disk w.environment = .error (.configuration e)) := by
  refine ⟨?_, Settings.unstopped_iff hfile⟩
  obtain ⟨s, hload⟩ | ⟨e, hrefused⟩ | ⟨failure, hstopped⟩ := Settings.load_ending hfile
  · obtain ⟨config, hconfig, hmerge⟩ := ok_of_bind hload
    rw [run_of_settings hparse hinit hload]
    exact .loaded hconfig hmerge hload
  · rw [run_of_report hparse hinit hrefused.load_eq rfl]
    exact .refused hrefused hrefused.load_eq
  · rw [run_of_unforeseen hparse hinit hstopped.load_eq hstopped.report?_eq]
    exact .stopped hstopped hstopped.load_eq

/-! ## A list instead of a mapping -/

def listText : String := "- just\n- a list\n"

def listEnvironment : Environment := { home := "/home", values := [(dataPathVariable, "cfg")] }

def listWorkspace : Workspace where
  disk := Settings.desk listText
  environment := listEnvironment
  stamp := "TIME"

def isNoMapping : Except Failure Yaml → Bool
  | .error (.configuration ⟨.notMapping, path⟩) => path == "cfg/config.yaml"
  | _ => false

theorem load_list : Settings.load listWorkspace.disk listEnvironment =
    .error (.configuration ⟨.notMapping, "cfg/config.yaml"⟩) := by
  have hread : isNoMapping (configurationOf listEnvironment.room ⟨"", ["cfg", "config.yaml"]⟩
      (unifyLines listText.toList)) = true := by
    decide +kernel
  refine Settings.load_of_failure ?_
  rw [listWorkspace, (Settings.hasText_desk listText rfl).loadConfiguration_eq]
  unfold isNoMapping at hread
  split at hread
  case h_1 path heq =>
    rw [heq, eq_of_beq hread]
  case h_2 => cases hread

theorem run_configured_list : run listWorkspace ["--list"] = (listWorkspace, .ok
    { code := 1, out := "", err := "Error loading configuration: " ++
        "Config file must contain a mapping (\x7b'path': 'cfg/config.yaml'\x7d)\n" }) := by
  have hparse : parse ["--list"] = .run { list := true } := by decide
  have hfile : Settings.Legible listWorkspace.disk listWorkspace.environment :=
    Settings.legible_desk listText rfl
  obtain ⟨hending, _⟩ := run_configured hparse rfl hfile
  generalize run listWorkspace ["--list"] = ending at hending
  cases hending with
  | loaded _ _ hload => cases load_list.symm.trans hload
  | refused _ hload =>
    obtain rfl := Failure.configuration.inj (Except.error.inj (load_list.symm.trans hload))
    rfl
  | stopped hstopped hload =>
    have hreport := hstopped.report?_eq
    rw [← Except.error.inj (load_list.symm.trans hload)] at hreport
    cases hreport

end ContractAtlas.Command

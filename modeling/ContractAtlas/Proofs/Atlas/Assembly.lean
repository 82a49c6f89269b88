import ContractAtlas.Proofs.Atlas.Names
import ContractAtlas.Proofs.Atlas.Rack

/-!
The law by which an atlas is put together from its documents (`Atlas.build_assembly`). Each document has
one of four fates, so that none is lost or counted twice (`size_foldl_absorb`, `count_failed_fates`), and
the log of the build tells of each one that did not simply come in (`collect_log`).
-/
namespace ContractAtlas
set_option autoImplicit false

/-! ## Fates -/

/-- What becomes of a document: it fails, its contract has no name, or the contract comes in, under a
new name or in the place of that of an earlier document. -/
inductive Fate where
  | failed
  | unnamed
  | added
  | replacing
  deriving DecidableEq

/-- The fate of a document behind others. -/
def Loading.fate (earlier : List Loading) (l : Loading) : Fate :=
  match l.result with
  | .error _ => .failed
  | .ok c =>
    if c.name = "" then .unnamed
    else if c.name ∈ storedNames earlier then .replacing
    else .added

/-- The fates of documents behind others, in order. -/
def fates (earlier : List Loading) : List Loading → List Fate
  | [] => []
  | l :: rest => l.fate earlier :: fates (earlier ++ [l]) rest

theorem length_fates (earlier loadings : List Loading) :
    (fates earlier loadings).length = loadings.length := by
  induction loadings generalizing earlier with
  | nil => rfl
  | cons l loadings ih => rw [fates, List.length_cons, List.length_cons, ih]

theorem length_eq_count_fates (outcomes : List Fate) :
    outcomes.length = outcomes.count .added + outcomes.count .replacing + outcomes.count .unnamed +
      outcomes.count .failed := by
  induction outcomes with
  | nil => rfl
  | cons outcome outcomes ih => cases outcome <;> simp [ih] <;> omega

theorem count_added_fate (earlier : List Loading) (l : Loading) :
    [l.fate earlier].count .added = (l.newName? (storedNames earlier)).toList.length := by
  cases hr : l.result with
  | error failure => simp [Loading.fate, Loading.newName?, Loading.name?, hr]
  | ok c =>
    by_cases hc : c.name = ""
    · simp [Loading.fate, Loading.newName?, Loading.name?, hr, hc]
    · by_cases hin : c.name ∈ storedNames earlier
      · simp [Loading.fate, Loading.newName?, Loading.name?, hr, hc, hin, Option.filter]
      · simp [Loading.fate, Loading.newName?, Loading.name?, hr, hc, hin, Option.filter]

theorem count_failed_fates (earlier : List Loading) {loadings : List Loading}
    (h : ∀ l ∈ loadings, l.stop? false = none) :
    (fates earlier loadings).count .failed = (loadings.filterMap Loading.skipped?).length := by
  induction loadings generalizing earlier with
  | nil => rfl
  | cons l loadings ih =>
    have hrest := ih (earlier ++ [l]) fun other hm => h other (List.mem_cons_of_mem l hm)
    have hl := h l List.mem_cons_self
    rw [fates, List.count_cons, hrest, List.filterMap_cons]
    cases hr : l.result with
    | ok c =>
      have hne : l.fate earlier ≠ .failed := by
        rw [Loading.fate, hr]
        dsimp only
        split
        · exact Fate.noConfusion
        · split <;> exact Fate.noConfusion
      simp [hne, Loading.skipped?, hr]
    | error failure =>
      cases failure with
      | document e => simp [Loading.fate, Loading.skipped?, hr]
      | _ => simp [Loading.stop?, hr] at hl

namespace Atlas

theorem size_foldl_absorb (earlier loadings : List Loading) :
    ((earlier ++ loadings).foldl absorb empty).size =
      (earlier.foldl absorb empty).size + (fates earlier loadings).count .added := by
  induction loadings generalizing earlier with
  | nil => simp [fates]
  | cons l loadings ih =>
    have hsplit : earlier ++ l :: loadings = earlier ++ [l] ++ loadings := by simp
    -- a document adds to the size what it adds to the names
    have hlength : ∀ a : Atlas, a.size = a.keys.length := fun a => by simp [size, keys]
    have hsize : ((earlier ++ [l]).foldl absorb empty).size =
        (earlier.foldl absorb empty).size + [l.fate earlier].count .added := by
      rw [hlength, hlength, List.foldl_append, List.foldl_cons, List.foldl_nil, absorb_keys,
        List.length_append, count_added_fate, Loading.newName?, Loading.newName?]
      simp only [mem_foldl_absorb_keys]
    have hcount : (fates earlier (l :: loadings)).count .added =
        [l.fate earlier].count .added + (fates (earlier ++ [l]) loadings).count .added := by
      rw [fates, ← List.singleton_append, List.count_append]
    rw [hsplit, ih, hsize, hcount, Nat.add_assoc]

end Atlas

/-! ## The log -/

/-- What the log of a build tells of a document, by its fate. -/
def Loading.report? (l : Loading) : Fate → Option Log.Record
  | .failed => l.skipped?.map fun s =>
    ⟨.warning, .registry, "Skipping " ++ s.path ++ ": " ++ s.error.message⟩
  | .unnamed => some ⟨.debug, .registry, "Dropping unnamed contract from " ++ l.path.text⟩
  | .replacing => l.name?.map fun name =>
    ⟨.debug, .registry,
      "Contract " ++ name ++ " from " ++ l.path.text ++ " replaces an earlier definition"⟩
  | .added => none

/-- The records of documents behind others, in order. -/
def reports (earlier : List Loading) : List Loading → List Log.Record
  | [] => []
  | l :: rest => (l.report? (l.fate earlier)).toList ++ reports (earlier ++ [l]) rest

theorem report?_source {l : Loading} {fate : Fate} {r : Log.Record} (h : l.report? fate = some r) :
    r.source = .registry := by
  cases fate with
  | failed =>
    obtain ⟨s, _, rfl⟩ := Option.map_eq_some_iff.mp h
    rfl
  | unnamed =>
    obtain rfl := Option.some.inj h
    rfl
  | added => cases h
  | replacing =>
    obtain ⟨name, _, rfl⟩ := Option.map_eq_some_iff.mp h
    rfl

theorem loadDocument_log_source (d : Disk) (p : Disk.Path) {r : Log.Record}
    (h : r ∈ (loadDocument d p).log) : r.source ≠ .registry := by
  unfold loadDocument at h
  split at h
  case h_1 => simp at h
  case h_2 =>
    split at h
    case h_1 => simp at h
    case h_2 =>
      obtain hnote | hloaded := List.mem_append.mp h
      · obtain ⟨note, _, rfl⟩ := List.mem_map.mp hnote
        cases note <;> exact Log.Source.noConfusion
      · rw [List.mem_singleton.mp hloaded]
        exact Log.Source.noConfusion

namespace Atlas

theorem take_log (earlier : List Loading) {l : Loading} {c : Contract} (hr : l.result = .ok c) :
    ((earlier.foldl absorb empty).take l.path c).2 = (l.report? (l.fate earlier)).toList := by
  by_cases hc : c.name = ""
  · simp [take, Loading.fate, Loading.report?, hr, hc, registryRecord]
  · by_cases hin : c.name ∈ storedNames earlier
    · have hcontains : (earlier.foldl absorb empty).contains c.name = true :=
        contains_iff_mem_keys.mpr (mem_foldl_absorb_keys.mpr hin)
      simp [take, Loading.fate, Loading.report?, Loading.name?, hr, hc, hin, hcontains, registryRecord]
    · have hcontains : ¬(earlier.foldl absorb empty).contains c.name = true :=
        fun h => hin (mem_foldl_absorb_keys.mp (contains_iff_mem_keys.mp h))
      simp [take, Loading.fate, Loading.report?, hr, hc, hin, hcontains]

/-- A document at which a build does not stop is logged as it was loaded, then by its fate. -/
theorem collect_cons_log {strict : Bool} (earlier loadings : List Loading) {l : Loading}
    (h : l.stop? strict = none) :
    (collect strict (earlier.foldl absorb empty) (l :: loadings)).2 =
      l.log ++ (l.report? (l.fate earlier)).toList ++
        (collect strict ((earlier ++ [l]).foldl absorb empty) loadings).2 := by
  rw [List.foldl_append, List.foldl_cons, List.foldl_nil]
  cases hr : l.result with
  | ok c => simp only [collect, absorb, hr, take_log earlier hr]
  | error failure =>
    cases failure with
    | document e =>
      have hlenient : strict = false := by
        cases strict with
        | false => rfl
        | true => simp [Loading.stop?, hr] at h
      subst hlenient
      simp [collect, absorb, hr, pass, Loading.fate, Loading.report?, Loading.skipped?, registryRecord]
    | _ => simp [Loading.stop?, hr] at h

theorem collect_log {strict : Bool} (earlier : List Loading) {loadings : List Loading}
    (h : ∀ l ∈ loadings, l.stop? strict = none)
    (hsource : ∀ l ∈ loadings, ∀ r ∈ l.log, r.source ≠ .registry) :
    (collect strict (earlier.foldl absorb empty) loadings).2.filter (·.source = .registry) =
      reports earlier loadings := by
  induction loadings generalizing earlier with
  | nil => rfl
  | cons l loadings ih =>
    have hrest := ih (earlier ++ [l]) (fun other hm => h other (List.mem_cons_of_mem l hm))
      fun other hm => hsource other (List.mem_cons_of_mem l hm)
    have hlog : l.log.filter (·.source = .registry) = [] := by
      simpa [List.filter_eq_nil_iff] using hsource l List.mem_cons_self
    have hreport : (l.report? (l.fate earlier)).toList.filter (·.source = .registry) =
        (l.report? (l.fate earlier)).toList := by
      rw [List.filter_eq_self]
      intro r hr
      simpa using report?_source (Option.mem_toList.mp hr)
    rw [collect_cons_log earlier loadings (h l List.mem_cons_self), List.filter_append,
      List.filter_append, hlog, hreport, hrest, List.nil_append, reports]

theorem build_log {d : Disk} {folder : String} {search : Disk.Search} {strict : Bool} {a : Atlas}
    {w : Disk.Walk} (hw : walk d folder search = .ok w) (h : (build d folder search strict).1 = .ok a) :
    (build d folder search strict).2 =
      (collect strict empty (w.documents.map (loadDocument d))).2 ++ [a.loadedFolderRecord folder] := by
  simp only [build, hw] at h ⊢
  generalize collect strict empty (w.documents.map (loadDocument d)) = outcome at h ⊢
  obtain ⟨result, log⟩ := outcome
  cases result with
  | error failure => cases h
  | ok found =>
    cases hb : w.blocked with
    | some p => simp [hb] at h
    | none =>
      simp only [hb] at h
      obtain rfl := Except.ok.inj h
      rfl

theorem documentPaths_of_walk {d : Disk} {folder : String} {search : Disk.Search} {w : Disk.Walk}
    (hw : walk d folder search = .ok w) (hlisted : w.blocked = none) :
    documentPaths d folder search = .ok w.documents := by
  obtain ⟨documents, blocked⟩ := w
  obtain rfl : blocked = none := hlisted
  rw [documentPaths, hw]

theorem stop?_lenient_of_none {strict : Bool} {l : Loading} (h : l.stop? strict = none) :
    l.stop? false = none := by
  cases hr : l.result with
  | ok c => simp [Loading.stop?, hr]
  | error failure =>
    cases failure with
    | document e => simp [Loading.stop?, hr]
    | _ => simp [Loading.stop?, hr] at h

end Atlas

/-! ## Levels -/

/-- The level at which the log tells of a fate, if it does. -/
def Fate.level? : Fate → Option Log.Level
  | .failed => some .warning
  | .unnamed | .replacing => some .debug
  | .added => none

theorem report?_level (earlier : List Loading) {l : Loading} (h : l.stop? false = none) :
    (l.report? (l.fate earlier)).map (·.level) = (l.fate earlier).level? := by
  cases hr : l.result with
  | ok c =>
    by_cases hc : c.name = ""
    · simp [Loading.fate, Loading.report?, Fate.level?, hr, hc]
    · by_cases hin : c.name ∈ storedNames earlier
      · simp [Loading.fate, Loading.report?, Loading.name?, Fate.level?, hr, hc, hin]
      · simp [Loading.fate, Loading.report?, Fate.level?, hr, hc, hin]
  | error failure =>
    cases failure with
    | document e => simp [Loading.fate, Loading.report?, Loading.skipped?, Fate.level?, hr]
    | _ => simp [Loading.stop?, hr] at h

theorem reports_level (earlier : List Loading) {loadings : List Loading}
    (h : ∀ l ∈ loadings, l.stop? false = none) :
    (reports earlier loadings).map (·.level) = (fates earlier loadings).filterMap Fate.level? := by
  induction loadings generalizing earlier with
  | nil => rfl
  | cons l loadings ih =>
    have hl := report?_level earlier (h l List.mem_cons_self)
    have hrest := ih (earlier ++ [l]) fun other hm => h other (List.mem_cons_of_mem l hm)
    rw [reports, List.map_append, hrest, ← Option.toList_map, hl, fates, List.filterMap_cons]
    cases (l.fate earlier).level? <;> rfl

theorem count_debug (outcomes : List Fate) :
    (outcomes.filterMap Fate.level?).count .debug =
      outcomes.count .replacing + outcomes.count .unnamed := by
  induction outcomes with
  | nil => rfl
  | cons outcome outcomes ih => cases outcome <;> simp [List.filterMap_cons, Fate.level?, ih] <;> omega

theorem count_warning (outcomes : List Fate) :
    (outcomes.filterMap Fate.level?).count .warning = outcomes.count .failed := by
  induction outcomes with
  | nil => rfl
  | cons outcome outcomes ih => cases outcome <;> simp [List.filterMap_cons, Fate.level?, ih]

/-! ## The law -/

/-- How many records of a level the registry itself has left in a log. -/
def registryCount (log : List Log.Record) (level : Log.Level) : Nat :=
  ((log.filter (·.source = .registry)).map (·.level)).count level

/-- An atlas is put together from loaded documents, in order. -/
structure Atlas.Assembles (a : Atlas) (loadings : List Loading) : Prop where
  holds : ∀ name, a.contains name = true ↔
    name ≠ "" ∧ ∃ l ∈ loadings, ∃ c, l.result = .ok c ∧ c.name = name
  last : ∀ name c, a.get? name = some c ↔
    name ≠ "" ∧ ∃ before l after, loadings = before ++ l :: after ∧ l.result = .ok c ∧
      c.name = name ∧ ∀ other ∈ after, ∀ c', other.result = .ok c' → c'.name ≠ name
  named : ∀ entry ∈ a.contracts, entry.2.name = entry.1 ∧ entry.1 ≠ ""
  keys : a.keys = (storedNames loadings).eraseDups
  sorted : a.names.Pairwise (· < ·)
  names : ∀ name, name ∈ a.names ↔ name ∈ a.keys
  skipped : a.skipped = loadings.filterMap Loading.skipped?
  failed : ∀ l ∈ loadings, ∀ failure, l.result = .error failure →
    ∃ e, failure = .document e ∧ e.path = some l.path.text ∧ ⟨l.path.text, e⟩ ∈ a.skipped
  accounted : loadings.length = a.size + (fates [] loadings).count .replacing +
    (fates [] loadings).count .unnamed + a.skipped.length

namespace Atlas

theorem assembles_foldl {d : Disk} {documents : List Disk.Path}
    (h : ∀ p ∈ documents, (loadDocument d p).stop? false = none) :
    ((documents.map (loadDocument d)).foldl absorb empty).Assembles
      (documents.map (loadDocument d)) where
  holds name := by rw [contains_iff_mem_keys, mem_foldl_absorb_keys, mem_storedNames]
  last name c := foldl_absorb_get?_eq_some_iff
  named entry hentry := foldl_absorb_named _ hentry
  keys := foldl_absorb_keys _
  sorted := names_sorted (keys_nodup _)
  names name := mem_names
  skipped := foldl_absorb_skipped _ empty
  failed := by
    rintro l hl failure hr
    obtain ⟨p, hp, rfl⟩ := List.mem_map.mp hl
    have hstop := h p hp
    cases failure with
    | document e =>
      refine ⟨e, rfl, ?_, ?_⟩
      · rw [loadDocument_document_path hr, loadDocument_path]
      · rw [foldl_absorb_skipped]
        exact List.mem_append_right _
          (List.mem_filterMap.mpr ⟨_, hl, skipped?_eq_some_iff.mpr ⟨hr, rfl⟩⟩)
    | _ => simp [Loading.stop?, hr] at hstop
  accounted := by
    have hstop : ∀ l ∈ documents.map (loadDocument d), l.stop? false = none := by simpa using h
    have hadded := size_foldl_absorb [] (documents.map (loadDocument d))
    have hfailed := count_failed_fates [] hstop
    rw [foldl_absorb_skipped, ← length_fates [], length_eq_count_fates, hfailed]
    rw [List.nil_append] at hadded
    rw [hadded]
    simp [size, empty]

/-- The law of assembly. A build that comes to an end has taken in all documents of the folder, in the
order of the walk, and its own log tells of each that failed, that had no name, or that took the place
of another. -/
theorem build_assembly {d : Disk} {folder : String} {search : Disk.Search} {strict : Bool} {a : Atlas}
    (h : (build d folder search strict).1 = .ok a) :
    ∃ documents, documentPaths d folder search = .ok documents ∧
      let loadings := documents.map (loadDocument d)
      let log := (build d folder search strict).2
      a.Assembles loadings ∧
      log.filter (·.source = .registry) = reports [] loadings ++ [a.loadedFolderRecord folder] ∧
      registryCount log .debug =
        (fates [] loadings).count .replacing + (fates [] loadings).count .unnamed ∧
      registryCount log .warning = a.skipped.length := by
  obtain ⟨w, hw, hblocked, hstop, rfl⟩ := build_ok h
  have hlenient : ∀ p ∈ w.documents, (loadDocument d p).stop? false = none :=
    fun p hp => stop?_lenient_of_none (hstop p hp)
  have hreports : (build d folder search strict).2.filter (·.source = .registry) =
      reports [] (w.documents.map (loadDocument d)) ++
        [((w.documents.map (loadDocument d)).foldl absorb empty).loadedFolderRecord folder] := by
    have hnone : ∀ l ∈ w.documents.map (loadDocument d), l.stop? strict = none :=
      List.forall_mem_map.mpr hstop
    have hsource : ∀ l ∈ w.documents.map (loadDocument d), ∀ r ∈ l.log, r.source ≠ .registry :=
      List.forall_mem_map.mpr fun p _ r hr => loadDocument_log_source d p hr
    have hlog := collect_log [] hnone hsource
    rw [build_log hw h, List.filter_append]
    congr 1
  have hlenients : ∀ l ∈ w.documents.map (loadDocument d), l.stop? false = none :=
    List.forall_mem_map.mpr hlenient
  have hlevels := reports_level [] hlenients
  refine ⟨w.documents, documentPaths_of_walk hw hblocked, assembles_foldl hlenient, hreports, ?_, ?_⟩
  · rw [registryCount, hreports, List.map_append, List.count_append, hlevels, count_debug]
    rfl
  · rw [registryCount, hreports, List.map_append, List.count_append, hlevels, count_warning,
      count_failed_fates [] hlenients, foldl_absorb_skipped]
    rfl

/-- A name that comes twice, a document without a name, one without text, and another name. -/
def mixedFiles : List (String × List UInt8) := [
  ("a.json", octets "\x7b\"ast\":\x7b\"nodes\":[0]\x7d,\"contractName\":\"A\"\x7d"),
  ("b.json", octets "\x7b\"ast\":\x7b\"nodes\":[0]\x7d\x7d"),
  ("c.json", []),
  ("d.json", octets "\x7b\"ast\":\x7b\"nodes\":[0]\x7d,\"contractName\":\"B\"\x7d"),
  ("e.json", octets "\x7b\"ast\":\x7b\"nodes\":[1]\x7d,\"contractName\":\"A\"\x7d")]

theorem racked_mixedFiles : Racked mixedFiles where
  isName := by
    have hnames : ∀ name ∈ ["a.json", "b.json", "c.json", "d.json", "e.json"], Disk.IsName name := by
      simp only [List.forall_mem_cons]
      refine ⟨?_, ?_, ?_, ?_, ?_, by simp⟩ <;> constructor <;> decide
    exact List.forall_mem_map.mp hnames
  accepted := by decide
  sorted := by decide

theorem build_assembly_mixedFiles :
    ∃ a, (build (rack mixedFiles) "d" {} false).1 = .ok a ∧ a.keys = ["A", "B"] ∧
      a.skipped.map Skipped.path = ["d/c.json"] ∧
      registryCount (build (rack mixedFiles) "d" {} false).2 .debug = 2 ∧
      registryCount (build (rack mixedFiles) "d" {} false).2 .warning = 1 := by
  obtain ⟨hstop, hnames, hskipped, hfates⟩ :
      ((mixedFiles.map loadRacked).findSome? (Loading.stop? false)).isNone ∧
      (storedNames (mixedFiles.map loadRacked)).eraseDups = ["A", "B"] ∧
      ((mixedFiles.map loadRacked).filterMap Loading.skipped?).map Skipped.path = ["d/c.json"] ∧
      fates [] (mixedFiles.map loadRacked) = [.added, .unnamed, .failed, .added, .replacing] := by
    decide +kernel
  have hbuild := build_rack racked_mixedFiles hstop
  obtain ⟨documents, hdocuments, assembles, _, hdebug, hwarning⟩ := build_assembly hbuild
  rw [documentPaths_of_walk
    (walk_rack racked_mixedFiles.accepted (racked_mixedFiles.sorted.imp le_of_lt)) rfl] at hdocuments
  obtain rfl := Except.ok.inj hdocuments
  rw [loadings_rack racked_mixedFiles] at assembles hdebug
  refine ⟨_, hbuild, assembles.keys.trans hnames, ?_, ?_, ?_⟩
  · rw [assembles.skipped, hskipped]
  · rw [hdebug, hfates]
    rfl
  · rw [hwarning, ← List.length_map Skipped.path, assembles.skipped, hskipped]
    rfl

end Atlas

end ContractAtlas

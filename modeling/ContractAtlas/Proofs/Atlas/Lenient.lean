import ContractAtlas.Proofs.Atlas.Build
import ContractAtlas.Proofs.Text.Octets
import Mathlib.Logic.ExistsUnique

/-!
How a lenient build ends. In a sound tree nothing stops it but an integer literal of too many digits
(`stop?_lenient_iff`); where it comes to an end, each document has ended in exactly one of three ways
(`Ending`).
-/
namespace ContractAtlas
set_option autoImplicit false

namespace Atlas

/-! ## Lenient builds -/

theorem walk?_of_walk {d : Disk} {folder : String} {search : Disk.Search} {w : Disk.Walk}
    (hw : walk d folder search = .ok w) : d.walk? (.ofString folder) search = some w := by
  cases hf : d.folder? (.ofString folder) with
  | some entries =>
    obtain ⟨w', hw', hok⟩ := walk_of_folder hf search
    rw [hok] at hw
    rw [hw', Except.ok.inj hw]
  | none =>
    by_cases hloc : d.locate .goal (.ofString folder) = .error .nameTooLong
    · simp [walk_nameTooLong hloc] at hw
    · simp [walk_missing hf hloc] at hw

/-- In a sound tree a lenient build stops only at an integer that is too long. -/
theorem stop?_lenient_iff {d : Disk} {p : Disk.Path} (hp : p.hasNull = false) (failure : Failure) :
    (loadDocument d p).stop? false = some failure ↔
      ∃ digits, failure = .longInteger digits ∧ HasLongInteger d p digits := by
  constructor
  · intro h
    obtain ⟨c, hr⟩ | ⟨cause, hr⟩ | ⟨hnull, _⟩ | ⟨digits, hr, hlong⟩ := loadDocument_cases d p
    · simp [Loading.stop?, hr] at h
    · simp [Loading.stop?, hr, documentFailure] at h
    · simp [hp] at hnull
    · simp only [Loading.stop?, hr] at h
      exact ⟨digits, (Option.some.inj h).symm, hlong⟩
  · rintro ⟨digits, rfl, hlong⟩
    simp [Loading.stop?, loadDocument_of_hasLongInteger hlong]

theorem stop?_lenient_eq_none_iff {d : Disk} {p : Disk.Path} (hp : p.hasNull = false) :
    (loadDocument d p).stop? false = none ↔ ∀ digits, ¬HasLongInteger d p digits := by
  constructor
  · intro hnone digits hlong
    have h := (stop?_lenient_iff hp (.longInteger digits)).mpr ⟨digits, rfl, hlong⟩
    simp [hnone] at h
  · intro hno
    cases hs : (loadDocument d p).stop? false with
    | none => rfl
    | some failure =>
      obtain ⟨digits, _, hlong⟩ := (stop?_lenient_iff hp failure).mp hs
      exact absurd hlong (hno digits)

theorem build_lenient_ok_iff {d : Disk} {folder : String} {search : Disk.Search} {w : Disk.Walk}
    (hw : walk d folder search = .ok w) (hlisted : w.blocked = none) :
    (∃ a, (build d folder search false).1 = .ok a) ↔
      ∀ p ∈ w.documents, (loadDocument d p).stop? false = none := by
  constructor
  · rintro ⟨a, ha⟩
    obtain ⟨w', hw', _, hstop, _⟩ := build_lenient_ok ha
    obtain rfl := Except.ok.inj (hw.symm.trans hw')
    exact hstop
  · intro hstop
    have hnone : (w.documents.map (loadDocument d)).findSome? (Loading.stop? false) = none := by
      rw [List.findSome?_map, List.findSome?_eq_none_iff]
      exact hstop
    rw [build_result hw, hnone, hlisted]
    exact ⟨_, rfl⟩

/-- A lenient build that fails was stopped at a document, and at none before it. -/
theorem build_lenient_error {d : Disk} {folder : String} {search : Disk.Search} {w : Disk.Walk}
    (hw : walk d folder search = .ok w) (hlisted : w.blocked = none) {failure : Failure}
    (h : (build d folder search false).1 = .error failure) :
    ∃ before p after, w.documents = before ++ p :: after ∧
      (∀ q ∈ before, (loadDocument d q).stop? false = none) ∧
      (loadDocument d p).stop? false = some failure := by
  rw [build_result hw, List.findSome?_map, hlisted] at h
  cases hs : w.documents.findSome? (Loading.stop? false ∘ loadDocument d) with
  | none => simp [hs] at h
  | some stopped =>
    rw [hs] at h
    obtain rfl := Except.error.inj h
    obtain ⟨before, p, after, hsplit, hp, hbefore⟩ := List.findSome?_eq_some_iff.mp hs
    exact ⟨before, p, after, hsplit, hbefore, hp⟩

/-! ## Endings -/

/-- How a document ends in a lenient build. -/
inductive Ending where
  | skipped (error : DocumentError)
  | dropped
  | stored (c : Contract)

/-- A document, behind which others come, ends in an atlas in a certain way: it is recorded with its
error, it has no name and leaves nothing behind, or its contract stands under its name, unless that of
a later document of the name does. -/
def EndsAs (d : Disk) (a : Atlas) (p : Disk.Path) (later : List Disk.Path) : Ending → Prop
  | .skipped e =>
    (loadDocument d p).result = .error (.document e) ∧ e.path = some p.text ∧ ⟨p.text, e⟩ ∈ a.skipped
  | .dropped =>
    (∃ c, (loadDocument d p).result = .ok c ∧ c.name = "") ∧ a.contains "" = false
  | .stored c =>
    (loadDocument d p).result = .ok c ∧ c.name ≠ "" ∧ a.contains c.name = true ∧
      ((∀ q ∈ later, ∀ other, (loadDocument d q).result = .ok other → other.name ≠ c.name) →
        a.get? c.name = some c)

theorem stored?_of_ok {l : Loading} {c : Contract} (hr : l.result = .ok c) (hne : c.name ≠ "") :
    l.stored? c.name = some c := by
  simp [Loading.stored?, hr, hne]

theorem stored?_empty (l : Loading) : l.stored? "" = none := by
  cases hr : l.result with
  | ok c => simp [Loading.stored?, hr]
  | error failure => simp [Loading.stored?, hr]

theorem stored?_eq_none {l : Loading} {name : String}
    (h : ∀ c, l.result = .ok c → c.name ≠ name) : l.stored? name = none := by
  cases hr : l.result with
  | ok c => simp [Loading.stored?, hr, h c hr]
  | error failure => simp [Loading.stored?, hr]

theorem get?_of_stored {l : Loading} {c : Contract} {before after : List Loading}
    (hr : l.result = .ok c) (hne : c.name ≠ "")
    (hafter : ∀ other ∈ after, ∀ c', other.result = .ok c' → c'.name ≠ c.name) :
    ((before ++ l :: after).foldl absorb empty).get? c.name = some c := by
  have hnone : after.filterMap (Loading.stored? c.name) = [] :=
    List.filterMap_eq_nil_iff.mpr fun other hm => stored?_eq_none (hafter other hm)
  rw [foldl_absorb_get?, List.filterMap_append, List.filterMap_cons_some (stored?_of_ok hr hne), hnone]
  simp

theorem contains_of_stored {l : Loading} {c : Contract} {loadings : List Loading}
    (hm : l ∈ loadings) (hr : l.result = .ok c) (hne : c.name ≠ "") :
    (loadings.foldl absorb empty).contains c.name = true := by
  have hpick : c ∈ loadings.filterMap (Loading.stored? c.name) :=
    List.mem_filterMap.mpr ⟨l, hm, stored?_of_ok hr hne⟩
  rw [contains, foldl_absorb_get?]
  cases hlast : (loadings.filterMap (Loading.stored? c.name)).getLast? with
  | none =>
    rw [List.getLast?_eq_none_iff.mp hlast] at hpick
    simp at hpick
  | some last => rfl

theorem contains_empty (loadings : List Loading) :
    (loadings.foldl absorb empty).contains "" = false := by
  have hnone : loadings.filterMap (Loading.stored? "") = [] :=
    List.filterMap_eq_nil_iff.mpr fun l _ => stored?_empty l
  rw [contains, foldl_absorb_get?, hnone]
  rfl

theorem endsAs_unique {d : Disk} {a : Atlas} {p : Disk.Path} {later : List Disk.Path} {x y : Ending}
    (hx : EndsAs d a p later x) (hy : EndsAs d a p later y) : x = y := by
  cases x with
  | skipped e =>
    cases y with
    | skipped e' =>
      have h := hx.1.symm.trans hy.1
      injection h with h
      injection h with h
      rw [h]
    | dropped =>
      obtain ⟨⟨c, hr, _⟩, _⟩ := hy
      simp [hx.1] at hr
    | stored c =>
      have h := hx.1.symm.trans hy.1
      simp at h
  | dropped =>
    obtain ⟨⟨c, hr, hc⟩, _⟩ := hx
    cases y with
    | skipped e =>
      have h := hr.symm.trans hy.1
      simp at h
    | dropped => rfl
    | stored c' =>
      have h := Except.ok.inj (hr.symm.trans hy.1)
      exact absurd (h ▸ hc) hy.2.1
  | stored c =>
    cases y with
    | skipped e =>
      have h := hx.1.symm.trans hy.1
      simp at h
    | dropped =>
      obtain ⟨⟨c', hr, hc⟩, _⟩ := hy
      have h := Except.ok.inj (hr.symm.trans hx.1)
      exact absurd (h ▸ hc) hx.2.1
    | stored c' => rw [Except.ok.inj (hx.1.symm.trans hy.1)]

theorem endsAs_exists {d : Disk} (before after : List Disk.Path) {p : Disk.Path}
    (hp : p.hasNull = false) (hstop : (loadDocument d p).stop? false = none) :
    ∃ ending,
      EndsAs d (((before ++ p :: after).map (loadDocument d)).foldl absorb empty) p after ending := by
  obtain ⟨c, hr⟩ | ⟨cause, hr⟩ | ⟨hnull, _⟩ | ⟨digits, hr, hlong⟩ := loadDocument_cases d p
  · by_cases hc : c.name = ""
    · exact ⟨.dropped, ⟨c, hr, hc⟩, contains_empty _⟩
    · refine ⟨.stored c, hr, hc, contains_of_stored ?_ hr hc, ?_⟩
      · simp
      · intro hlater
        rw [List.map_append, List.map_cons]
        exact get?_of_stored hr hc (by simpa using hlater)
  · refine ⟨.skipped ⟨cause, some p.text⟩, hr, rfl, ?_⟩
    have hs : (loadDocument d p).skipped? = some ⟨p.text, ⟨cause, some p.text⟩⟩ :=
      skipped?_eq_some_iff.mpr ⟨hr, by rw [loadDocument_path]⟩
    rw [foldl_absorb_skipped]
    simp [hs]
  · simp [hp] at hnull
  · exact absurd hlong ((stop?_lenient_eq_none_iff hp).mp hstop digits)

/-- In a sound tree (as every disk that can be reached has, `Disk.Reached.sound`), a lenient build through
folders that can be listed comes to an end exactly if no document has an integer literal that is too
long; else it ends at the first that has. If it comes to an end, each document has ended in one of
three ways and in no other. -/
theorem build_lenient_ending {d : Disk} (hd : d.root.Sound) {folder : String} {search : Disk.Search}
    {w : Disk.Walk} (hw : walk d folder search = .ok w) (hlisted : w.blocked = none) :
    ((∃ a, (build d folder search false).1 = .ok a) ↔
      ∀ p ∈ w.documents, ∀ digits, ¬HasLongInteger d p digits) ∧
    (∀ failure, (build d folder search false).1 = .error failure →
      ∃ before p after digits, w.documents = before ++ p :: after ∧
        (∀ q ∈ before, ∀ n, ¬HasLongInteger d q n) ∧ HasLongInteger d p digits ∧
        (∃ text, HasText d p text ∧ Json.HoldsLongRun text digits) ∧ failure = .longInteger digits) ∧
    ∀ a, (build d folder search false).1 = .ok a →
      ∀ before p after, w.documents = before ++ p :: after → ∃! ending, EndsAs d a p after ending := by
  have hnull : ∀ p ∈ w.documents, p.hasNull = false := fun p hp =>
    Disk.walk?_documents_hasNull hd (walk?_of_walk hw) hp
  refine ⟨?_, ?_, ?_⟩
  · rw [build_lenient_ok_iff hw hlisted]
    exact forall₂_congr fun p hp => stop?_lenient_eq_none_iff (hnull p hp)
  · intro failure hfail
    obtain ⟨before, p, after, hsplit, hbefore, hp⟩ := build_lenient_error hw hlisted hfail
    have hpnull : p.hasNull = false := hnull p (by simp [hsplit])
    obtain ⟨digits, hf, hlong⟩ := (stop?_lenient_iff hpnull failure).mp hp
    refine ⟨before, p, after, digits, hsplit, ?_, hlong, hlong.holdsLongRun, hf⟩
    intro q hq
    have hqnull : q.hasNull = false := hnull q (by simp [hsplit, hq])
    exact (stop?_lenient_eq_none_iff hqnull).mp (hbefore q hq)
  · intro a ha before p after hsplit
    obtain ⟨w', hw', _, hstop, rfl⟩ := build_lenient_ok ha
    obtain rfl := Except.ok.inj (hw.symm.trans hw')
    have hp : p ∈ w.documents := by simp [hsplit]
    obtain ⟨ending, hending⟩ := endsAs_exists before after (hnull p hp) (hstop p hp)
    rw [← hsplit] at hending
    exact ⟨ending, hending, fun other hother => endsAs_unique hother hending⟩

theorem hasLongInteger_shelf {count : Nat} (h : Numeral.digitLimit < count) :
    HasLongInteger (shelf (List.replicate count 0x37)) shelved count := by
  have hascii : ∀ b ∈ List.replicate count (0x37 : UInt8), Text.IsAscii b := by
    intro b hb
    rw [List.eq_of_mem_replicate hb]
    exact ⟨by decide, by decide⟩
  refine ⟨List.replicate count '7', ⟨_, read_shelf _, ?_⟩, ?_⟩
  · rw [Text.decodeDetected_of_ascii hascii, List.map_replicate]
    rfl
  · obtain ⟨less, rfl⟩ := Nat.exists_eq_add_one_of_ne_zero (Nat.ne_zero_of_lt h)
    have hdigits : ∀ d ∈ List.replicate (less + 1) '7', Json.Reader.isDigit d = true := by
      intro d hd
      rw [List.eq_of_mem_replicate hd]
      decide
    have hlong : Numeral.digitLimit < (List.replicate (less + 1) '7').length := by simpa using h
    rw [List.replicate_succ] at hdigits hlong ⊢
    rw [Json.read_of_digits hdigits (by decide) hlong, List.length_cons, List.length_replicate]

/-- A document without text is skipped, and one of too many digits ends the build. -/
theorem build_lenient_ending_shelf :
    (∃ a, (build (shelf []) "d" {} false).1 = .ok a ∧
      ∃! ending, EndsAs (shelf []) a shelved [] ending) ∧
    (build (shelf (List.replicate 4301 0x37)) "d" {} false).1 = .error (.longInteger 4301) := by
  refine ⟨?_, ?_⟩
  · obtain ⟨hends, _, hending⟩ := build_lenient_ending (shelf_sound []) (walk_shelf []) rfl
    obtain ⟨a, ha⟩ := hends.mpr (by
      intro p hp digits hlong
      obtain rfl := List.mem_singleton.mp hp
      obtain ⟨text, ⟨octets, hread, hdecode⟩, hvalue⟩ := hlong
      obtain rfl := Except.ok.inj ((read_shelf []).symm.trans hread)
      obtain rfl := Except.ok.inj (hdecode.symm.trans rfl)
      cases hvalue)
    exact ⟨a, ha, hending a ha [] shelved [] rfl⟩
  · have hlong : HasLongInteger (shelf (List.replicate 4301 0x37)) shelved 4301 :=
      hasLongInteger_shelf (by decide)
    obtain ⟨hends, hstops, _⟩ :=
      build_lenient_ending (shelf_sound _) (walk_shelf (List.replicate 4301 0x37)) rfl
    cases hb : (build (shelf (List.replicate 4301 0x37)) "d" {} false).1 with
    | ok a => exact absurd hlong (hends.mp ⟨a, hb⟩ shelved (by simp) 4301)
    | error failure =>
      obtain ⟨before, p, after, digits, hsplit, _, hp, _, rfl⟩ := hstops failure hb
      have hmem : p ∈ before ++ p :: after := by simp
      rw [← hsplit] at hmem
      obtain rfl := List.mem_singleton.mp hmem
      rw [hp.unique hlong]

end Atlas

end ContractAtlas

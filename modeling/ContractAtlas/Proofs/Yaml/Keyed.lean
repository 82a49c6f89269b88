import ContractAtlas.Proofs.Fold
import ContractAtlas.Yaml.Value.Reader
import Mathlib.Data.List.Induction
import Mathlib.Data.List.Nodup

/-!
Mappings whose keys are distinct. What is read from a text holds only such mappings, at any depth
(`read_keyed`). In them a look-up finds the one entry of a key (`get?_eq_some_iff`), so that it can be
told what is left of it when entries are dropped (`get?_keep`).
-/
namespace ContractAtlas.Yaml
set_option autoImplicit false

/-! ## Distinct keys -/

/-- No mapping has two entries of one key, and the values in it have none either. -/
inductive Keyed : Yaml → Prop
  | scalar {y : Yaml} (h : y.worth? ≠ none) : Keyed y
  | seq {items : List Yaml} (hitems : ∀ y ∈ items, Keyed y) : Keyed (.seq items)
  | set (keys : List Yaml) : Keyed (.set keys)
  | map {entries : List (Yaml × Yaml)} (hdistinct : (entries.map fun e => e.1.worth?).Nodup)
      (hvalues : ∀ e ∈ entries, Keyed e.2) : Keyed (.map entries)

theorem Keyed.null : Keyed .null := .scalar (by simp [worth?])

theorem Keyed.empty : Keyed (.map []) := .map List.nodup_nil (by simp)

theorem Keyed.entries {entries : List (Yaml × Yaml)} (h : Keyed (.map entries)) :
    (entries.map fun e => e.1.worth?).Nodup ∧ ∀ e ∈ entries, e.2.Keyed := by
  cases h with
  | scalar h => exact absurd rfl h
  | map hdistinct hvalues => exact ⟨hdistinct, hvalues⟩

/-! ## Setting entries -/

theorem worths_setEntry (key value : Yaml) (entries : List (Yaml × Yaml)) :
    (setEntry key value entries).map (fun e => e.1.worth?) =
      if key.worth? ∈ entries.map (fun e => e.1.worth?) then entries.map fun e => e.1.worth?
      else entries.map (fun e => e.1.worth?) ++ [key.worth?] := by
  induction entries with
  | nil => simp [setEntry]
  | cons entry rest ih =>
    obtain ⟨k, v⟩ := entry
    by_cases hk : k.worth? = key.worth?
    · simp [setEntry, hk]
    · have hk' : key.worth? ≠ k.worth? := fun h => hk h.symm
      simp only [setEntry, if_neg hk, List.map_cons, ih, List.mem_cons, hk', false_or]
      split <;> rfl

theorem mem_setEntry {key value : Yaml} {entries : List (Yaml × Yaml)} {e : Yaml × Yaml}
    (h : e ∈ setEntry key value entries) : e.2 = value ∨ e ∈ entries := by
  induction entries with
  | nil => exact .inl (by rw [List.mem_singleton.mp h])
  | cons entry rest ih =>
    obtain ⟨k, v⟩ := entry
    rw [setEntry] at h
    split at h
    · obtain rfl | h := List.mem_cons.mp h
      · exact .inl rfl
      · exact .inr (List.mem_cons_of_mem _ h)
    · obtain rfl | h := List.mem_cons.mp h
      · exact .inr List.mem_cons_self
      · exact (ih h).imp_right (List.mem_cons_of_mem _)

theorem Keyed.setEntry {entries : List (Yaml × Yaml)} (h : Keyed (.map entries)) (key : Yaml)
    {value : Yaml} (hvalue : value.Keyed) : Keyed (.map (setEntry key value entries)) := by
  obtain ⟨hdistinct, hvalues⟩ := h.entries
  refine .map ?_ ?_
  · rw [worths_setEntry]
    split
    case isTrue => exact hdistinct
    case isFalse hnew => exact hdistinct.append (List.nodup_singleton _) (by simpa using hnew)
  · intro e he
    obtain hset | hold := mem_setEntry he
    · exact hset ▸ hvalue
    · exact hvalues e hold

theorem keyed_entriesOf {settings : List (Yaml × Yaml)} (h : ∀ e ∈ settings, e.2.Keyed) :
    Keyed (.map (entriesOf settings)) := by
  induction settings using List.reverseRecOn with
  | nil => exact .map List.nodup_nil (by simp [entriesOf])
  | append_singleton settings last ih =>
    have hbefore := ih fun e he => h e (List.mem_append_left _ he)
    rw [entriesOf, List.foldl_append, List.foldl_cons, List.foldl_nil]
    exact hbefore.setEntry last.1 (h last (by simp))

/-! ## Drafts -/

/-- Values that stand in drafts before collections are put together. -/
def Draft.Sound (draft : Draft) : Prop := ∀ v, draft = .value v → v.Keyed

theorem keyed_valueBy {draft : Draft} (hdraft : draft.Sound) {value : Nat → Yaml}
    (hvalue : ∀ id, (value id).Keyed) : (draft.valueBy value).Keyed := by
  cases draft with
  | value v => exact hdraft v rfl
  | sequence ids =>
    refine .seq fun y hy => ?_
    obtain ⟨id, _, rfl⟩ := List.mem_map.mp hy
    exact hvalue id
  | pairs entries =>
    refine .seq fun y hy => ?_
    obtain ⟨⟨k, v⟩, _, rfl⟩ := List.mem_map.mp hy
    refine .seq fun z hz => ?_
    obtain rfl | rfl : z = value k ∨ z = value v := by simpa using hz
    · exact hvalue k
    · exact hvalue v
  | keySet ids => exact .set _
  | mapping entries =>
    refine keyed_entriesOf fun e he => ?_
    obtain ⟨⟨k, v⟩, _, rfl⟩ := List.mem_map.mp he
    exact hvalue v

def SoundDrafts (drafts : Array (Option Draft)) : Prop :=
  ∀ id draft, drafts.getD id none = some draft → draft.Sound

theorem SoundDrafts.set {drafts : Array (Option Draft)} (h : SoundDrafts drafts) (id : Nat)
    {draft : Draft} (hdraft : draft.Sound) : SoundDrafts (drafts.setIfInBounds id (some draft)) := by
  intro other d hd
  rw [Array.getD_eq_getD_getElem?, Array.getElem?_setIfInBounds] at hd
  split at hd
  case isTrue =>
    split at hd
    · obtain rfl : draft = d := by simpa using hd
      exact hdraft
    · simp at hd
  case isFalse => exact h other d (by rwa [Array.getD_eq_getD_getElem?])

theorem keyed_scalarOf {α : Type} {wrap : α → Yaml} (hwrap : ∀ a, (wrap a).worth? ≠ none)
    {result : Except ValueFault α} {v : Yaml} (h : scalarOf wrap result = .ok v) : v.Keyed := by
  cases result with
  | error fault => cases h
  | ok a => exact Except.ok.inj h ▸ .scalar (hwrap a)

theorem keyed_scalarValue {room : Nat} {g : Graph} {id : Nat} {v : Yaml}
    (h : scalarValue room g id = .ok v) : v.Keyed := by
  obtain ⟨text, _, h⟩ := ok_of_bind h
  split at h
  case h_1 => exact Except.ok.inj h ▸ .null
  case h_5 =>
    rw [binaryOf] at h
    split at h
    · exact Except.ok.inj h ▸ .scalar (by simp [worth?])
    · cases h
  case h_7 => cases h
  case h_8 => exact Except.ok.inj h ▸ .scalar (by simp [worth?])
  all_goals exact keyed_scalarOf (by simp [worth?]) h

/-! ## Drafting -/

theorem sound_ofTag? {tag : Tag} {draft : Draft} (h : Draft.ofTag? tag = some draft) :
    draft.Sound := by
  rintro v rfl
  cases tag <;> simp [Draft.ofTag?] at h

namespace Drafting

def Sound (d : Drafting) : Prop := SoundDrafts d.drafts

theorem Sound.put {d : Drafting} (h : d.Sound) (id : Nat) {draft : Draft} (hdraft : draft.Sound) :
    (d.put id draft).Sound := SoundDrafts.set h id hdraft

theorem sound_ofGraph (room : Nat) (g : Graph) : (ofGraph room g).Sound := by
  intro id draft h
  rw [ofGraph, Array.getD_eq_getD_getElem?, Array.getElem?_replicate] at h
  split at h <;> simp at h

variable {d d' : Drafting}

theorem Sound.reach (h : d.Sound) {id : Nat} (hreach : d.reach id = .ok d') : d'.Sound := by
  unfold Drafting.reach at hreach
  split at hreach
  case h_1 => exact Except.ok.inj hreach ▸ h
  case h_2 =>
    dsimp only at hreach
    split at hreach
    case h_1 draft htag =>
      obtain rfl := Except.ok.inj hreach
      exact h.put id (sound_ofTag? htag)
    case h_5 =>
      obtain ⟨v, hvalue, rfl⟩ := ok_of_map hreach
      refine h.put id ?_
      rintro _ ⟨⟩
      exact keyed_scalarValue hvalue
    all_goals cases hreach

theorem Sound.reachEntry (h : d.Sound) {mark : Mark} {entry : Nat × Nat}
    (hreach : d.reachEntry mark entry = .ok d') : d'.Sound := by
  obtain ⟨next, hkey, hreach⟩ := ok_of_bind hreach
  split at hreach
  · cases hreach
  · exact (h.reach hkey).reach hreach

theorem Sound.reachMapping (h : d.Sound) {id : Nat} {entries : List (Nat × Nat)}
    (hreach : d.reachMapping id = .ok (d', entries)) : d'.Sound := by
  unfold Drafting.reachMapping at hreach
  dsimp only at hreach
  split at hreach
  case h_2 => cases hreach
  case h_1 =>
    split at hreach
    case h_1 => cases hreach
    case h_2 graph _ =>
      obtain ⟨last, hfold, heq⟩ := ok_of_map hreach
      obtain ⟨rfl, _⟩ := Prod.mk.inj heq
      have hmerged : Sound { d with graph } := h
      exact foldlM_keep (P := Sound) (fun hs hstep => hs.reachEntry hstep) hmerged hfold

theorem Sound.reachPairs {context : Context} {mark : Mark} {ids : List Nat} (h : d.Sound)
    {pairs : List (Nat × Nat)} (hreach : reachPairs context mark d ids = .ok (d', pairs)) :
    d'.Sound := by
  induction ids generalizing d pairs with
  | nil =>
    obtain ⟨rfl, _⟩ := hreach
    exact h
  | cons id rest ih =>
    obtain ⟨pair, _, hreach⟩ := ok_of_bind hreach
    obtain ⟨next, hkey, hreach⟩ := ok_of_bind hreach
    obtain ⟨reached, hvalue, hreach⟩ := ok_of_bind hreach
    obtain ⟨⟨last, more⟩, hrest, heq⟩ := ok_of_bind hreach
    obtain ⟨rfl, _⟩ := heq
    exact ih ((h.reach hkey).reach hvalue) hrest

theorem sound_of_isCollection {draft : Draft} (h : draft.isCollection = true) : draft.Sound := by
  rintro v rfl
  cases h

theorem Sound.workOnPairs {context : Context} {id : Nat} (h : d.Sound)
    (hwork : workOnPairs context d id = .ok d') : d'.Sound := by
  unfold Drafting.workOnPairs at hwork
  dsimp only at hwork
  split at hwork
  case h_2 => cases hwork
  case h_1 =>
    obtain ⟨result, hreach, rfl⟩ := ok_of_map hwork
    exact (h.reachPairs hreach).put id (sound_of_isCollection rfl)

theorem Sound.workOn {id : Nat} (h : d.Sound) (hwork : d.workOn id = .ok d') : d'.Sound := by
  unfold Drafting.workOn at hwork
  dsimp only at hwork
  split at hwork
  case h_1 =>
    obtain ⟨last, hfold, rfl⟩ := ok_of_map hwork
    have hlast : last.Sound := foldlM_keep (P := Sound) (fun hs hstep => hs.reach hstep) h hfold
    exact hlast.put id (sound_of_isCollection rfl)
  case h_2 => cases hwork
  case h_3 | h_4 => exact h.workOnPairs hwork
  case h_5 | h_6 =>
    obtain ⟨result, hreach, rfl⟩ := ok_of_map hwork
    exact (h.reachMapping hreach).put id (sound_of_isCollection rfl)

theorem Sound.finish (h : d.Sound) {fuel : Nat} (hfinish : d.finish fuel = .ok d') : d'.Sound := by
  induction fuel generalizing d with
  | zero => exact Except.ok.inj hfinish ▸ h
  | succ fuel ih =>
    rw [Drafting.finish] at hfinish
    split at hfinish
    case isTrue => exact Except.ok.inj hfinish ▸ h
    case isFalse =>
      obtain ⟨next, hlevel, hrest⟩ := ok_of_bind hfinish
      have hcleared : Sound { d with waiting := [] } := h
      have hnext : next.Sound :=
        foldlM_keep (P := Sound) (fun hs hstep => hs.workOn hstep) hcleared hlevel
      exact ih hnext hrest

end Drafting

/-! ## Values -/

theorem keyed_valueTo {drafts : Array (Option Draft)} (h : SoundDrafts drafts) (depth id : Nat) :
    (valueTo drafts depth id).Keyed := by
  induction depth generalizing id with
  | zero =>
    rw [valueTo]
    split
    case h_1 v hv => exact h id _ hv v rfl
    case h_2 => exact .null
  | succ depth ih =>
    rw [valueTo]
    cases hdraft : drafts.getD id none with
    | none => exact .null
    | some draft => exact keyed_valueBy (h id draft hdraft) ih

def Valuation.Sound (v : Valuation) : Prop := ∀ id y, v.values.getD id none = some y → y.Keyed

theorem Valuation.Sound.enter {drafts : Array (Option Draft)} (h : SoundDrafts drafts) {fuel : Nat}
    {id : Nat} {v : Valuation} (hv : v.Sound) : (v.enter drafts id fuel).Sound := by
  induction fuel generalizing id v with
  | zero => exact hv
  | succ fuel ih =>
    rw [Valuation.enter]
    split
    case h_2 => exact hv
    case h_1 draft _ hdraft =>
      -- the parts are entered first, one after the other
      have hparts : ∀ (parts : List Nat) (start : Valuation), start.Sound →
          (parts.foldl (fun v part => Valuation.enter drafts part v fuel) start).Sound := by
        intro parts
        induction parts with
        | nil => exact fun _ hstart => hstart
        | cons part parts ihparts => exact fun start hstart => ihparts _ (ih hstart)
      have hlast := hparts draft.parts
        { v with entered := v.entered.setIfInBounds id true } hv
      dsimp only
      generalize draft.parts.foldl (fun v part => Valuation.enter drafts part v fuel)
        { v with entered := v.entered.setIfInBounds id true } = last at hlast ⊢
      intro other y hy
      rw [Array.getD_eq_getD_getElem?, Array.getElem?_setIfInBounds] at hy
      split at hy
      case isFalse => exact hlast other y (by rwa [Array.getD_eq_getD_getElem?])
      case isTrue =>
        split at hy
        case isFalse => simp at hy
        case isTrue =>
          obtain rfl := Option.some.inj hy
          refine keyed_valueBy (h id draft hdraft) fun part => ?_
          cases hpart : last.values.getD part none with
          | none => exact keyed_valueTo h cycleDepth part
          | some known => exact hlast part known hpart

theorem keyed_valueOfDrafts {drafts : Array (Option Draft)} (h : SoundDrafts drafts) (id : Nat) :
    (valueOfDrafts drafts id).Keyed := by
  have hstart : Valuation.Sound
      ⟨Array.replicate drafts.size none, Array.replicate drafts.size false⟩ := by
    intro id y hy
    rw [Array.getD_eq_getD_getElem?, Array.getElem?_replicate] at hy
    split at hy <;> simp at hy
  rw [valueOfDrafts]
  cases hvalue : (Valuation.enter drafts id
      ⟨Array.replicate drafts.size none, Array.replicate drafts.size false⟩
      (drafts.size + 1)).values.getD id none with
  | none => exact .null
  | some y => exact hstart.enter h id y hvalue

theorem keyed_value {room : Nat} {g : Graph} {root : Nat} {y : Yaml}
    (h : g.value room root = .ok y) : y.Keyed := by
  obtain ⟨d, hroot, h⟩ := ok_of_bind h
  obtain ⟨last, hall, h⟩ := ok_of_bind h
  obtain rfl := Except.ok.inj h
  have hlast : last.Sound := ((Drafting.sound_ofGraph room g).reach hroot).finish hall
  exact keyed_valueOfDrafts hlast root

theorem read_keyed {room : Nat} {text : List Char} {y : Yaml} (h : read room text = .ok y) :
    y.Keyed := by
  unfold read at h
  split at h
  case h_1 => cases h
  case h_2 =>
    split at h
    case h_1 yaml hvalue =>
      obtain rfl := Except.ok.inj h
      unfold valueOf at hvalue
      split at hvalue
      case h_1 => cases hvalue
      case h_2 => exact Except.ok.inj hvalue ▸ .null
      case h_3 => exact keyed_value hvalue
    all_goals cases h

/-! ## Looking up -/

def isText (key : String) : Yaml → Bool
  | .str s => s == key
  | _ => false

theorem isText_iff {key : String} {y : Yaml} : y.isText key = true ↔ y = .str key := by
  cases y <;> simp [isText]

theorem get?_map (entries : List (Yaml × Yaml)) (key : String) :
    (Yaml.map entries).get? key = (entries.find? fun e => e.1.isText key).map (·.2) := rfl

theorem key_of_find? {entries : List (Yaml × Yaml)} {key : String} {e : Yaml × Yaml}
    (h : (entries.find? fun e => e.1.isText key) = some e) : e.1 = .str key := by
  have htext := List.find?_some h
  exact isText_iff.mp htext

/-- The entry of a key is there once, so it is the one that is found. -/
theorem get?_eq_some_iff {entries : List (Yaml × Yaml)} (h : Keyed (.map entries)) {key : String}
    {value : Yaml} : (Yaml.map entries).get? key = some value ↔ (.str key, value) ∈ entries := by
  obtain ⟨hdistinct, _⟩ := h.entries
  rw [get?_map, Option.map_eq_some_iff]
  constructor
  · rintro ⟨⟨k, v⟩, hfound, rfl⟩
    obtain rfl := key_of_find? hfound
    exact List.mem_of_find?_eq_some hfound
  · intro hmem
    cases hfound : entries.find? fun e => e.1.isText key with
    | none =>
      have hnot := List.find?_eq_none.mp hfound _ hmem
      exact absurd (isText_iff.mpr rfl) hnot
    | some e =>
      have hkey := key_of_find? hfound
      have hsame : e = (.str key, value) :=
        List.inj_on_of_nodup_map hdistinct (List.mem_of_find?_eq_some hfound) hmem
          (congrArg worth? hkey)
      exact ⟨e, rfl, by rw [hsame]⟩

/-- A mapping with only the entries that pass. -/
def keep (passes : Yaml × Yaml → Bool) : Yaml → Yaml
  | .map entries => .map (entries.filter passes)
  | y => y

theorem Keyed.keep {y : Yaml} (h : y.Keyed) (passes : Yaml × Yaml → Bool) :
    (y.keep passes).Keyed := by
  cases y with
  | map entries =>
    obtain ⟨hdistinct, hvalues⟩ := h.entries
    exact .map (hdistinct.sublist (List.filter_sublist.map _)) fun e he =>
      hvalues e (List.mem_filter.mp he).1
  | _ => exact h

theorem get?_keep {y : Yaml} (h : y.Keyed) (passes : Yaml × Yaml → Bool) (key : String) :
    (y.keep passes).get? key = (y.get? key).filter fun value => passes (.str key, value) := by
  cases y with
  | map entries =>
    ext value
    have hkept : Keyed (.map (entries.filter passes)) := h.keep passes
    rw [Yaml.keep, get?_eq_some_iff hkept, List.mem_filter, Option.filter_eq_some_iff,
      get?_eq_some_iff h]
  | _ => rfl

/-- A mapping with another value for a key, made from the one that is there. -/
def change (key : String) (f : Yaml → Yaml) : Yaml → Yaml
  | .map entries => .map (entries.map fun e => (e.1, if e.1.isText key then f e.2 else e.2))
  | y => y

theorem Keyed.change {y : Yaml} (h : y.Keyed) {key : String} {f : Yaml → Yaml}
    (hf : ∀ value, value.Keyed → (f value).Keyed) : (y.change key f).Keyed := by
  cases y with
  | map entries =>
    obtain ⟨hdistinct, hvalues⟩ := h.entries
    refine .map ?_ fun e he => ?_
    · rwa [List.map_map]
    · obtain ⟨old, hold, rfl⟩ := List.mem_map.mp he
      dsimp only
      split
      · exact hf _ (hvalues old hold)
      · exact hvalues old hold
  | _ => exact h

theorem get?_change (key : String) (f : Yaml → Yaml) (y : Yaml) (other : String) :
    (y.change key f).get? other = if other = key then (y.get? key).map f else y.get? other := by
  cases y with
  | map entries =>
    rw [change, get?_map, List.find?_map, Option.map_map, get?_map, get?_map]
    change Option.map _ (entries.find? fun e => e.1.isText other) = _
    split
    case isTrue hkey =>
      subst hkey
      rw [Option.map_map]
      refine Option.map_congr fun e he => ?_
      simp [isText_iff.mpr (key_of_find? he)]
    case isFalse hkey =>
      refine Option.map_congr fun e he => ?_
      simp [key_of_find? he, isText, hkey]
  | _ => simp [change, get?]

end ContractAtlas.Yaml

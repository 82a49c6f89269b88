import ContractAtlas.Source.Node
import Mathlib.Data.List.Pairwise

/-!
Sound shapes. In a sound record every field can be told from the others by each of its spellings, and
every default is null or passes the check of its own field. All shapes of nodes are sound
(`sound_shape`).
-/
namespace ContractAtlas.Schema
set_option autoImplicit false

/-! ## Keys -/

def Key.spellings (key : Key) : List String := [key.jsonName, key.name]

theorem Key.jsonName_mem (key : Key) : key.jsonName ∈ key.spellings := List.mem_cons_self

theorem Key.name_mem (key : Key) : key.name ∈ key.spellings := List.mem_cons_of_mem _ List.mem_cons_self

/-- No spelling stands for both keys. -/
def Key.Apart (key other : Key) : Prop := ∀ label ∈ key.spellings, label ∉ other.spellings

instance (key other : Key) : Decidable (key.Apart other) :=
  inferInstanceAs (Decidable (∀ label ∈ key.spellings, label ∉ other.spellings))

instance : Std.Symm Key.Apart where
  symm _ _ h label hother hkey := h label hkey hother

def Fields.keys : Fields → List Key
  | .nil => []
  | .cons key _ _ rest => key :: rest.keys

/-! ## Soundness -/

mutual

def Shape.Sound : Shape → Prop
  | .list item => item.Sound
  | .record _ fields => fields.Sound
  | _ => True

def Fields.Sound : Fields → Prop
  | .nil => True
  | .cons key default shape rest =>
    (∀ other ∈ rest.keys, key.Apart other) ∧ shape.Sound ∧
      (default = .null ∨ shape.check default = .ok default) ∧ rest.Sound

end

theorem Fields.Sound.pairwise_keys : {fields : Fields} → fields.Sound →
    fields.keys.Pairwise Key.Apart
  | .nil, _ => .nil
  | .cons _ _ _ _, h => .cons h.1 (pairwise_keys h.2.2.2)

theorem Fields.Sound.nodup_names {fields : Fields} (h : fields.Sound) :
    (fields.keys.map Key.name).Nodup := by
  refine List.pairwise_map.mpr (h.pairwise_keys.imp ?_)
  intro key other hapart heq
  exact hapart key.name key.name_mem (heq ▸ other.name_mem)

/-- A spelling determines the key. -/
theorem Fields.Sound.key_unique {fields : Fields} (h : fields.Sound) {key other : Key}
    (hkey : key ∈ fields.keys) (hother : other ∈ fields.keys) {label : String}
    (hlabel : label ∈ key.spellings) (hlabel' : label ∈ other.spellings) : key = other := by
  by_contra hne
  exact h.pairwise_keys.forall hkey hother hne label hlabel hlabel'

/-- What a field has to be for a record with it to be sound, its key apart. -/
structure Stands (field : Key × Json × Shape) : Prop where
  sound : field.2.2.Sound
  default : field.2.1 = .null ∨ field.2.2.check field.2.1 = .ok field.2.1

theorem keys_ofList (fields : List (Key × Json × Shape)) :
    (Fields.ofList fields).keys = fields.map Prod.fst := by
  induction fields with
  | nil => rfl
  | cons field fields ih => simp [Fields.ofList, Fields.keys, ih]

theorem sound_ofList {fields : List (Key × Json × Shape)}
    (hapart : (fields.map Prod.fst).Pairwise Key.Apart) (hstands : ∀ field ∈ fields, Stands field) :
    (Fields.ofList fields).Sound := by
  induction fields with
  | nil => trivial
  | cons field fields ih =>
    rw [List.map_cons, List.pairwise_cons] at hapart
    rw [List.forall_mem_cons] at hstands
    have hkeys : ∀ other ∈ (Fields.ofList fields).keys, field.1.Apart other := by
      rw [keys_ofList]
      exact hapart.1
    exact ⟨hkeys, hstands.1.sound, hstands.1.default, ih hapart.2 hstands.2⟩

/-! ## Looking up -/

theorem lookup_filter_of_lookup {label : String} {json : Json} {given : List (String × Json)}
    {keep : String × Json → Bool} (h : given.lookup label = some json) (hkeep : keep (label, json) = true) :
    (given.filter keep).lookup label = some json := by
  induction given with
  | nil => cases h
  | cons field given ih =>
    obtain ⟨other, value⟩ := field
    by_cases hlabel : label = other
    · subst hlabel
      obtain rfl : value = json := by simpa using h
      simp [hkeep]
    · have hne : (label == other) = false := by simpa using hlabel
      rw [List.lookup_cons, hne] at h
      cases hfirst : keep (other, value) <;> simp [hfirst, hne, List.lookup_cons, ih h]

/-- Where names are distinct, a value that is not null is found as before among those that are given. -/
theorem lookup_filter_isGiven {record : List (String × Json)} (hnodup : (record.map Prod.fst).Nodup)
    (label : String) :
    (record.filter isGiven).lookup label = (record.lookup label).filter fun json => !json.isNull := by
  induction record with
  | nil => rfl
  | cons field record ih =>
    obtain ⟨other, value⟩ := field
    rw [List.map_cons, List.nodup_cons] at hnodup
    by_cases hlabel : label = other
    · subst hlabel
      have hnone : record.lookup label = none := List.lookup_eq_none_iff.mpr fun field hfield =>
        bne_iff_ne.mpr fun heq => hnodup.1 (List.mem_map.mpr ⟨field, hfield, heq.symm⟩)
      rw [List.filter_cons, isGiven]
      cases hvalue : value.isNull <;> simp [Option.filter_some, hvalue, ih hnodup.2, hnone]
    · have hne : (label == other) = false := by simpa using hlabel
      cases hfirst : isGiven (other, value) <;> simp [hfirst, hne, List.lookup_cons, ih hnodup.2]

@[simp] theorem Wrapper.apply_obj (wrapper : Option Wrapper) (given : List (String × Json)) :
    Wrapper.apply wrapper (.obj given) = .obj given := by
  cases wrapper <;> rfl

end ContractAtlas.Schema

namespace ContractAtlas.Source
set_option autoImplicit false
open Schema

/-! ## Fields -/

@[simp] theorem stands_textField (key : Key) (default : String) : Stands (textField key default) :=
  ⟨trivial, .inr rfl⟩

@[simp] theorem stands_flagField (key : Key) : Stands (flagField key) := ⟨trivial, .inr rfl⟩

@[simp] theorem stands_any (key : Key) : Stands (key, .null, .any) := ⟨trivial, .inl rfl⟩

theorem stands_listField (key : Key) {item : Shape} (h : item.Sound) : Stands (listField key item) :=
  ⟨h, .inr rfl⟩

theorem stands_recordField (key : Key) {shape : Shape} (h : shape.Sound)
    (hblank : shape.check shape.blank = .ok shape.blank) : Stands (recordField key shape) :=
  ⟨h, .inr hblank⟩

/-! ## Shapes of nodes -/

theorem sound_nodeFields (kind : String) {fields : List (Key × Json × Shape)}
    (hapart : (⟨"id", "id"⟩ :: ⟨"nodeType", "node_type"⟩ :: fields.map Prod.fst).Pairwise Key.Apart)
    (hstands : ∀ field ∈ fields, Stands field) : (nodeFields kind fields).Sound := by
  refine sound_ofList hapart ?_
  simp only [List.forall_mem_cons]
  exact ⟨⟨trivial, .inl rfl⟩, stands_textField _ kind, hstands⟩

theorem sound_reference : reference.Sound := sound_nodeFields "" (by decide) (by simp)

theorem sound_inheritance : inheritance.Sound :=
  sound_nodeFields "" (by decide) (by simp [stands_recordField _ sound_reference rfl])

theorem sound_modifierUse : modifierUse.Sound :=
  sound_nodeFields "" (by decide) (by simp [stands_recordField _ sound_reference rfl])

theorem sound_overrideList : overrideList.Sound :=
  sound_nodeFields "" (by decide) (by simp [stands_listField _ sound_reference])

theorem sound_declaration : declaration.Sound := sound_nodeFields "" (by decide) (by simp)

theorem sound_parameterList : parameterList.Sound :=
  sound_nodeFields "" (by decide) (by simp [stands_listField _ sound_declaration])

theorem sound_enumValue : enumValue.Sound := sound_nodeFields "EnumValue" (by decide) (by simp)

theorem sound_function : function.Sound := by
  refine sound_nodeFields "" (by decide) ?_
  have hparameters (key : Key) : Stands (recordField key parameterList) :=
    stands_recordField key sound_parameterList rfl
  have hoverrides (key : Key) : Stands (key, .null, overrideList) := ⟨sound_overrideList, .inl rfl⟩
  have hwhole : Shape.whole.Sound := trivial
  simp [hparameters, hoverrides, stands_listField _ sound_modifierUse, stands_listField _ hwhole]

theorem sound_shape (kind : NodeKind) : kind.shape.Sound := by
  have htext : Shape.text.Sound := trivial
  have hany : Shape.any.Sound := trivial
  have hparameters (key : Key) : Stands (recordField key parameterList) :=
    stands_recordField key sound_parameterList rfl
  cases kind with
  | pragma => exact sound_nodeFields "" (by decide) (by simp [stands_listField _ htext])
  | importDirective => exact sound_nodeFields "" (by decide) (by simp)
  | contract =>
    refine sound_nodeFields "" (by decide) ?_
    simp [stands_listField _ sound_inheritance, stands_listField _ hany]
  | declaration => exact sound_declaration
  | function => exact sound_function
  | event | modifier => exact sound_nodeFields "" (by decide) (by simp [hparameters])
  | struct => exact sound_nodeFields "" (by decide) (by simp [stands_listField _ sound_declaration])
  | enum => exact sound_nodeFields "" (by decide) (by simp [stands_listField _ sound_enumValue])

/-! ## Kinds -/

/-- All nodes are records that come without a wrapper and begin with the fields of every node. -/
theorem shape_eq (kind : NodeKind) : ∃ fields, kind.shape = .record none (nodeFields "" fields) := by
  cases kind <;> exact ⟨_, rfl⟩

theorem field_of_kindOf? {raw : Json} {kind : NodeKind} (h : kindOf? raw = some kind) :
    raw = .obj raw.fields ∧ raw.fields.lookup "nodeType" = some (.str kind.tag) := by
  have htag : kind.tag = raw.kind := by
    have hfound := List.find?_some h
    simpa using hfound
  have hne : kind.tag ≠ "" := by cases kind <;> decide
  have hfield : raw.field "nodeType" = .str kind.tag := by
    have hkind : raw.kind ≠ "" := htag ▸ hne
    rw [htag]
    exact Json.eq_str_of_textOrEmpty_ne_empty hkind
  have hobject : raw.isObject = true := by
    cases hraw : raw.isObject with
    | true => rfl
    | false => simp [Json.field_of_not_isObject hraw] at hfield
  refine ⟨Json.eq_obj_of_isObject hobject, ?_⟩
  rw [Json.eq_obj_of_isObject hobject, Json.field_obj] at hfield
  cases hlookup : raw.fields.lookup "nodeType" with
  | none => simp [hlookup] at hfield
  | some json => simpa [hlookup] using hfield

theorem kindOf?_of_lookup {given : List (String × Json)} {kind : NodeKind}
    (h : given.lookup "nodeType" = some (.str kind.tag)) : kindOf? (.obj given) = some kind := by
  have hkind : (Json.obj given).kind = kind.tag := by
    rw [Json.kind, Json.field_obj, h]
    rfl
  rw [kindOf?, hkind, NodeKind.ofTag?_tag]

end ContractAtlas.Source

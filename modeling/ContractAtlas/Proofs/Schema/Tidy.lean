import ContractAtlas.Proofs.Schema.Sound

/-!
Tidied values. From every record in a value the nulls and the fields that the record does not have are
taken out, and a bare list is put into its record (`Shape.tidy`). The check does not see the difference
(`Shape.check_tidy`): a tidied node is read as the same node, or has the same violations at the same
places (`check_tidy_node`).
-/
namespace ContractAtlas.Schema
set_option autoImplicit false

/-! ## Tidying -/

/-- The fields whose labels a way of tidying knows, tidied by it. -/
def tidied (tidy? : (label : String) → Json → Option Json) (given : List (String × Json)) :
    List (String × Json) :=
  given.filterMap fun (label, json) => (tidy? label json).map (label, ·)

mutual

/-- The value without what its shape does not look at. Only records and the items of lists are gone
into; a value of another form than its shape, such as a null item, stays as it is. -/
def Shape.tidy : Shape → Json → Json
  | .list item, .arr items => .arr (items.map fun json => item.tidy json)
  | .record wrapper fields, json =>
    match Wrapper.apply wrapper json with
    | .obj given => .obj (tidied fields.tidy? (given.filter isGiven))
    | other => other
  | _, json => json

/-- The tidied value of the field that the label spells, if there is such a field. -/
def Fields.tidy? : Fields → (label : String) → Json → Option Json
  | .nil, _, _ => none
  | .cons key _ shape rest, label, json =>
    if label ∈ key.spellings then some (shape.tidy json) else rest.tidy? label json

end

@[simp] theorem Wrapper.apply_apply (wrapper : Option Wrapper) (json : Json) :
    Wrapper.apply wrapper (Wrapper.apply wrapper json) = Wrapper.apply wrapper json := by
  cases wrapper <;> cases json <;> rfl

theorem Shape.tidy_obj {wrapper : Option Wrapper} {fields : Fields} {json : Json}
    {given : List (String × Json)} (h : Wrapper.apply wrapper json = .obj given) :
    (Shape.record wrapper fields).tidy json = .obj (tidied fields.tidy? (given.filter isGiven)) := by
  rw [Shape.tidy, h]

theorem Shape.tidy_of_not_isObject {wrapper : Option Wrapper} {fields : Fields} {json : Json}
    (h : (Wrapper.apply wrapper json).isObject = false) :
    (Shape.record wrapper fields).tidy json = Wrapper.apply wrapper json := by
  rw [Shape.tidy]
  cases hjson : Wrapper.apply wrapper json with
  | obj given => simp [hjson, Json.isObject] at h
  | _ => rfl

theorem Shape.tidy_isNull (shape : Shape) (json : Json) : (shape.tidy json).isNull = json.isNull := by
  cases shape with
  | list item => cases json <;> rfl
  | record wrapper fields => cases json <;> cases wrapper <;> rfl
  | _ => rfl

/-! ## Looking up -/

/-- What is tidied under a label is found tidied. -/
theorem lookup_tidied {tidy? : String → Json → Option Json} {label : String} {change : Json → Json}
    (h : ∀ json, tidy? label json = some (change json)) (given : List (String × Json)) :
    (tidied tidy? given).lookup label = (given.lookup label).map change := by
  induction given with
  | nil => rfl
  | cons field given ih =>
    obtain ⟨other, json⟩ := field
    unfold tidied at ih ⊢
    by_cases hlabel : label = other
    · subst hlabel
      simp [h]
    · have hne : (label == other) = false := by simpa using hlabel
      cases htidy : tidy? other json with
      | none => simp [htidy, hne, List.lookup_cons, ih]
      | some changed => simp [htidy, hne, List.lookup_cons, ih]

/-- Under a spelling of the key, tidied values are found for a key as they are found untidied. -/
theorem Key.find?_tidied {tidy? : String → Json → Option Json} {key : Key} {change : Json → Json}
    (h : ∀ label ∈ key.spellings, ∀ json, tidy? label json = some (change json))
    (given : List (String × Json)) :
    key.find? (tidied tidy? given) = (key.find? given).map fun (label, json) => (label, change json) := by
  unfold Key.find?
  rw [lookup_tidied (h _ key.jsonName_mem), lookup_tidied (h _ key.name_mem)]
  cases given.lookup key.jsonName with
  | some json => rfl
  | none => cases given.lookup key.name <;> rfl

theorem Fields.tidy?_isNull : {fields : Fields} → {label : String} → {json tidy : Json} →
    fields.tidy? label json = some tidy → tidy.isNull = json.isNull
  | .cons key default shape rest, label, json, tidy, h => by
    rw [Fields.tidy?] at h
    split at h
    case isTrue => rw [← Option.some.inj h, shape.tidy_isNull]
    case isFalse => exact Fields.tidy?_isNull h

/-- Tidying makes no nulls. -/
theorem filter_isGiven_tidied (fields : Fields) (given : List (String × Json)) :
    (tidied fields.tidy? (given.filter isGiven)).filter isGiven =
      tidied fields.tidy? (given.filter isGiven) := by
  refine List.filter_eq_self.mpr fun field hfield => ?_
  obtain ⟨⟨label, json⟩, hmem, hsome⟩ := List.mem_filterMap.mp hfield
  obtain ⟨tidy, htidy, rfl⟩ := Option.map_eq_some_iff.mp hsome
  have hgiven : isGiven (label, json) = true := (List.mem_filter.mp hmem).2
  rw [isGiven, Fields.tidy?_isNull htidy]
  exact hgiven

/-! ## The check of tidied values -/

theorem Fields.tidy?_of_apart {key : Key} {default : Json} {shape : Shape} {rest : Fields}
    (hapart : ∀ other ∈ rest.keys, key.Apart other) {other : Key} (hother : other ∈ rest.keys)
    {label : String} (hlabel : label ∈ other.spellings) (json : Json) :
    (Fields.cons key default shape rest).tidy? label json = rest.tidy? label json := by
  have hne : label ∉ key.spellings := fun hkey => hapart other hother label hkey hlabel
  rw [Fields.tidy?, if_neg hne]

mutual

theorem Shape.check_tidy : (shape : Shape) → shape.Sound → (json : Json) →
    shape.check (shape.tidy json) = shape.check json
  | .text, _, _ | .flag, _, _ | .whole, _, _ | .any, _, _ => rfl
  | .list item, hsound, json => by
    cases json with
    | arr items =>
      have hitems : items.map ((fun json => item.check json) ∘ fun json => item.tidy json) =
          items.map fun json => item.check json :=
        List.map_congr_left fun json _ => Shape.check_tidy item hsound json
      rw [Shape.tidy, Shape.check, Shape.check, List.map_map, hitems]
    | _ => rfl
  | .record wrapper fields, hsound, json => by
    by_cases hobject : (Wrapper.apply wrapper json).isObject = true
    · have happly := Json.eq_obj_of_isObject hobject
      rw [Shape.tidy_obj happly, Shape.check, Shape.check, happly, Wrapper.apply_obj]
      have hfields := Fields.check_tidied fields hsound fields.tidy? (fun _ _ _ _ _ => rfl)
      exact congrArg (Except.map Json.obj)
        ((congrArg fields.check (filter_isGiven_tidied fields _)).trans (hfields _))
    · rw [Shape.tidy_of_not_isObject (by simpa using hobject), Shape.check, Shape.check,
        Wrapper.apply_apply]

/-- A way of tidying that agrees with that of the fields under all their spellings changes nothing. -/
theorem Fields.check_tidied : (fields : Fields) → fields.Sound →
    (tidy? : String → Json → Option Json) →
    (∀ key ∈ fields.keys, ∀ label ∈ key.spellings, ∀ json,
      tidy? label json = fields.tidy? label json) →
    (given : List (String × Json)) → fields.check (tidied tidy? given) = fields.check given
  | .nil, _, _, _, _ => rfl
  | .cons key default shape rest, hsound, tidy?, hagree, given => by
    obtain ⟨hapart, hshape, -, hrest⟩ := hsound
    have hfirst : ∀ label ∈ key.spellings, ∀ json, tidy? label json = some (shape.tidy json) := by
      intro label hlabel json
      rw [hagree key List.mem_cons_self label hlabel, Fields.tidy?, if_pos hlabel]
    have hothers : rest.check (tidied tidy? given) = rest.check given := by
      refine Fields.check_tidied rest hrest tidy? (fun other hother label hlabel json => ?_) given
      rw [hagree other (List.mem_cons_of_mem _ hother) label hlabel,
        Fields.tidy?_of_apart hapart hother hlabel]
    rw [Fields.check, Fields.check, hothers, Key.find?_tidied hfirst]
    cases key.find? given with
    | none => rfl
    | some field =>
      obtain ⟨label, json⟩ := field
      simp only [Option.map_some, Shape.check_tidy shape hshape json]

end

end ContractAtlas.Schema

namespace ContractAtlas.Source
set_option autoImplicit false
open Schema

/-! ## Nodes -/

theorem kindOf?_tidy {raw : Json} {kind : NodeKind} (h : kindOf? raw = some kind) :
    kindOf? (kind.shape.tidy raw) = some kind := by
  obtain ⟨fields, hshape⟩ := shape_eq kind
  obtain ⟨hraw, hlookup⟩ := field_of_kindOf? h
  have htag : ∀ json, (nodeFields "" fields).tidy? "nodeType" json = some json := by
    intro json
    simp [nodeFields, Fields.ofList, Fields.tidy?, textField, Key.spellings, Key.plain, Shape.tidy]
  rw [hshape, hraw, Shape.tidy_obj (Wrapper.apply_obj none raw.fields)]
  apply kindOf?_of_lookup
  rw [lookup_tidied htag, lookup_filter_of_lookup hlookup rfl]
  rfl

/-- The law of tidying. Nulls, fields that no node of the kind has and bare lists of parameters make no
difference, at any depth: the tidied node is of the same kind, has the same standard form or the same
violations, and is read as the same node. -/
theorem check_tidy_node {raw : Json} {kind : NodeKind} (h : kindOf? raw = some kind) :
    kindOf? (kind.shape.tidy raw) = some kind ∧
    kind.shape.check (kind.shape.tidy raw) = kind.shape.check raw ∧
    Node.ofJson (kind.shape.tidy raw) = Node.ofJson raw := by
  have hkind := kindOf?_tidy h
  have hcheck := Shape.check_tidy kind.shape (sound_shape kind) raw
  refine ⟨hkind, hcheck, ?_⟩
  simp only [Node.ofJson, hkind, h, hcheck]

/-- An event with nulls and unknown fields, whose bare list of parameters has a null item. -/
def strewnEvent : Json := .obj [
  ("nodeType", .str "EventDefinition"), ("id", .null), ("name", .null), ("src", .str "12:34:0"),
  ("parameters", .arr [
    .obj [("name", .str "to"), ("typeName", .obj [("name", .null)]), ("value", .null),
      ("indexed", .str "yes"), ("scope", .int 7)],
    .null])]

def tidyEvent : Json := .obj [
  ("nodeType", .str "EventDefinition"),
  ("parameters", .obj [
    ("nodeType", .str "ParameterList"),
    ("parameters", .arr [
      .obj [("name", .str "to"), ("typeName", .obj [("name", .null)]), ("indexed", .str "yes")],
      .null])])]

theorem check_tidy_node_event :
    kindOf? strewnEvent = some .event ∧ NodeKind.event.shape.tidy strewnEvent = tidyEvent ∧
      NodeKind.event.shape.check tidyEvent = NodeKind.event.shape.check strewnEvent ∧
      Node.ofJson tidyEvent = Node.ofJson strewnEvent := by
  have hkind : kindOf? strewnEvent = some .event := by decide
  obtain ⟨-, hcheck, hnode⟩ := check_tidy_node hkind
  exact ⟨hkind, rfl, hcheck, hnode⟩

end ContractAtlas.Source

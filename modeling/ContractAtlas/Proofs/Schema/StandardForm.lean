import ContractAtlas.Proofs.Schema.Sound

/-!
Standard forms. What the check of a sound shape gives back passes the check as it is
(`Shape.check_standard`): defaults that are filled in and scalars that were brought into their type are
taken the next time as they stand. A record stays the same also where a value of it is told under the
other spelling of its key (`Fields.check_standard`), so a node whose tag is put back beside its standard
form is read as the same node (`check_retagged`).
-/
namespace ContractAtlas.Schema
set_option autoImplicit false

/-! ## Results of a check -/

theorem Checked.map_eq_ok {α β : Type} {x : Checked α} {f : α → β} {b : β} (h : x.map f = .ok b) :
    ∃ a, x = .ok a ∧ f a = b := by
  cases x with
  | error violations => cases h
  | ok a => exact ⟨a, rfl, Except.ok.inj h⟩

theorem Checked.both_eq_ok {α β : Type} {x : Checked α} {y : Checked β} {a : α} {b : β}
    (h : Checked.both x y = .ok (a, b)) : x = .ok a ∧ y = .ok b := by
  cases x <;> cases y <;> cases h
  exact ⟨rfl, rfl⟩

theorem Checked.inside_eq_ok {α : Type} {place : Place} {x : Checked α} {a : α}
    (h : x.inside place = .ok a) : x = .ok a := by
  cases x with
  | error violations => cases h
  | ok b => exact h

theorem Checked.ofScalar_eq_ok {α : Type} {wrap : α → Json} {x : Except Cause α} {json : Json}
    (h : Checked.ofScalar wrap x = .ok json) : ∃ a, json = wrap a := by
  cases x with
  | error cause => cases h
  | ok a => exact ⟨a, (Except.ok.inj h).symm⟩

/-- Results that come out of the check of items again as they are come out so together. -/
theorem Checked.gather_again {check : Json → Checked Json}
    (hagain : ∀ {json out}, check json = .ok out → check out = .ok out) {items outs : List Json} {i : Nat}
    (h : Checked.gather i (items.map check) = .ok outs) : Checked.gather i (outs.map check) = .ok outs := by
  induction items generalizing i outs with
  | nil =>
    obtain rfl : [] = outs := Except.ok.inj h
    rfl
  | cons json items ih =>
    obtain ⟨⟨out, rest⟩, hboth, rfl⟩ := Checked.map_eq_ok h
    obtain ⟨hfirst, hrest⟩ := Checked.both_eq_ok hboth
    have hout : check out = .ok out := hagain (Checked.inside_eq_ok hfirst)
    rw [List.map_cons, Checked.gather, hout, ih hrest]
    rfl

/-! ## Records -/

theorem Shape.isNull_of_check {shape : Shape} {json out : Json} (h : shape.check json = .ok out)
    (hjson : json.isNull = false) : out.isNull = false := by
  cases shape with
  | any => exact Except.ok.inj h ▸ hjson
  | text | flag | whole =>
    obtain ⟨a, rfl⟩ := Checked.ofScalar_eq_ok h
    rfl
  | list item =>
    cases json with
    | arr items =>
      obtain ⟨outs, -, rfl⟩ := Checked.map_eq_ok h
      rfl
    | _ => cases h
  | record wrapper fields =>
    rw [Shape.check] at h
    split at h
    case h_1 =>
      obtain ⟨outs, -, rfl⟩ := Checked.map_eq_ok h
      rfl
    case h_2 => cases h

theorem Key.mem_of_find? {key : Key} {given : List (String × Json)} {field : String × Json}
    (h : key.find? given = some field) : field ∈ given := by
  unfold Key.find? at h
  split at h
  case h_1 json hlookup =>
    obtain rfl := Option.some.inj h
    exact Json.mem_of_lookup_eq_some hlookup
  case h_2 =>
    obtain ⟨json, hlookup, rfl⟩ := Option.map_eq_some_iff.mp h
    exact Json.mem_of_lookup_eq_some hlookup

/-- Whether the fields given tell the values of a record, whichever spelling of a key each is told
under; nulls are not told. -/
def Fields.Tells (fields : Fields) (given record : List (String × Json)) : Prop :=
  ∀ key ∈ fields.keys,
    (key.find? given).map Prod.snd = (record.lookup key.name).filter fun json => !json.isNull

theorem Fields.Tells.rest {key : Key} {default value : Json} {shape : Shape} {rest : Fields}
    {given record : List (String × Json)} (hapart : ∀ other ∈ rest.keys, key.Apart other)
    (h : (Fields.cons key default shape rest).Tells given ((key.name, value) :: record)) :
    rest.Tells given record := by
  intro other hother
  have hne : (other.name == key.name) = false := by
    refine beq_eq_false_iff_ne.mpr fun heq => ?_
    exact hapart other hother key.name key.name_mem (heq ▸ other.name_mem)
  rw [h other (List.mem_cons_of_mem _ hother), List.lookup_cons, hne]

/-- A value may be told a second time, under the name of its key in JSON. -/
theorem Fields.Tells.cons {fields : Fields} (hsound : fields.Sound) {given record : List (String × Json)}
    (h : fields.Tells given record) {key : Key} (hkey : key ∈ fields.keys) {value : Json}
    (hvalue : record.lookup key.name = some value) (hnull : value.isNull = false) :
    fields.Tells ((key.jsonName, value) :: given) record := by
  intro other hother
  by_cases hsame : other = key
  · subst hsame
    simp [Key.find?, hvalue, hnull, Option.filter_some]
  · have hne : ∀ label ∈ other.spellings, (label == key.jsonName) = false := fun label hlabel =>
      beq_eq_false_iff_ne.mpr fun heq =>
        hsame (hsound.key_unique hother hkey hlabel (heq ▸ key.jsonName_mem))
    rw [← h other hother]
    simp [Key.find?, List.lookup_cons, hne _ other.jsonName_mem, hne _ other.name_mem]

/-! ## The check of standard forms -/

theorem Fields.names_of_check : {fields : Fields} → {given record : List (String × Json)} →
    fields.check given = .ok record → record.map Prod.fst = fields.keys.map Key.name
  | .nil, _, _, h => by
    cases h
    rfl
  | .cons key default shape rest, _, _, h => by
    rw [Fields.check] at h
    obtain ⟨⟨value, others⟩, hboth, rfl⟩ := Checked.map_eq_ok h
    rw [List.map_cons, Fields.keys, List.map_cons, Fields.names_of_check (Checked.both_eq_ok hboth).2]

/-- A record that has the names of its fields tells its own values. -/
theorem Fields.tells_self {fields : Fields} (hsound : fields.Sound) {record : List (String × Json)}
    (hnames : record.map Prod.fst = fields.keys.map Key.name) :
    fields.Tells (record.filter isGiven) record := by
  have hnodup : (record.map Prod.fst).Nodup := hnames ▸ hsound.nodup_names
  intro key hkey
  unfold Key.find?
  rw [lookup_filter_isGiven hnodup, lookup_filter_isGiven hnodup]
  by_cases hplain : key.jsonName = key.name
  · rw [hplain]
    cases (record.lookup key.name).filter fun json => !json.isNull <;> rfl
  · have hnone : record.lookup key.jsonName = none := by
      refine List.lookup_eq_none_iff.mpr fun field hfield => ?_
      have hname : field.1 ∈ fields.keys.map Key.name := hnames ▸ List.mem_map_of_mem hfield
      obtain ⟨other, hother, hspelled⟩ := List.mem_map.mp hname
      refine bne_iff_ne.mpr fun heq => hplain ?_
      have hsame : key = other :=
        hsound.key_unique hkey hother key.jsonName_mem (heq.trans hspelled.symm ▸ other.name_mem)
      rw [heq, ← hspelled, hsame]
    rw [hnone]
    cases (record.lookup key.name).filter fun json => !json.isNull <;> rfl

mutual

/-- What the check gives back passes it as it is. -/
theorem Shape.check_standard : (shape : Shape) → shape.Sound → {json out : Json} →
    shape.check json = .ok out → shape.check out = .ok out
  | .any, _, _, _, _ => rfl
  | .text, _, _, _, h | .flag, _, _, _, h | .whole, _, _, _, h => by
    obtain ⟨a, rfl⟩ := Checked.ofScalar_eq_ok h
    rfl
  | .list item, hsound, json, out, h => by
    cases json with
    | arr items =>
      obtain ⟨outs, hitems, rfl⟩ := Checked.map_eq_ok h
      rw [Shape.check, Checked.gather_again (fun h => Shape.check_standard item hsound h) hitems]
      rfl
    | _ => cases h
  | .record wrapper fields, hsound, json, out, h => by
    rw [Shape.check] at h
    split at h
    case h_1 given _ =>
      obtain ⟨record, hrecord, rfl⟩ := Checked.map_eq_ok h
      have htells := Fields.tells_self hsound (Fields.names_of_check hrecord)
      have hgiven : ∀ field ∈ given.filter isGiven, isGiven field = true :=
        fun field hfield => (List.mem_filter.mp hfield).2
      rw [Shape.check, Wrapper.apply_obj]
      exact congrArg (Except.map Json.obj) (Fields.check_standard fields hsound hgiven hrecord htells)
    case h_2 => cases h

/-- Fields that tell a standard record are brought into it. -/
theorem Fields.check_standard : (fields : Fields) → fields.Sound →
    {given record again : List (String × Json)} → (∀ field ∈ given, isGiven field = true) →
    fields.check given = .ok record → fields.Tells again record → fields.check again = .ok record
  | .nil, _, _, _, _, _, h, _ => h
  | .cons key default shape rest, hsound, given, record, again, hgiven, h, htells => by
    obtain ⟨hapart, hshape, hdefault, hrest⟩ := hsound
    rw [Fields.check] at h
    obtain ⟨⟨value, others⟩, hboth, rfl⟩ := Checked.map_eq_ok h
    obtain ⟨hfirst, hothers⟩ := Checked.both_eq_ok hboth
    have hsettled : value = default ∧ default = .null ∨
        value.isNull = false ∧ shape.check value = .ok value := by
      cases hfind : key.find? given with
      | none =>
        rw [hfind] at hfirst
        obtain rfl := Except.ok.inj hfirst
        cases hnull : default.isNull with
        | true => exact .inl ⟨rfl, Json.isNull_iff.mp hnull⟩
        | false => exact .inr ⟨rfl, hdefault.resolve_left fun h => by simp [h, Json.isNull] at hnull⟩
      | some field =>
        rw [hfind] at hfirst
        have hcheck := Checked.inside_eq_ok hfirst
        have hjson : field.2.isNull = false := by
          simpa [isGiven] using hgiven field (Key.mem_of_find? hfind)
        exact .inr ⟨Shape.isNull_of_check hcheck hjson, Shape.check_standard shape hshape hcheck⟩
    have hrest := Fields.check_standard rest hrest hgiven hothers (htells.rest hapart)
    have hfound : (key.find? again).map Prod.snd = (some value).filter fun json => !json.isNull := by
      rw [htells key List.mem_cons_self, List.lookup_cons, beq_self_eq_true]
    rw [Fields.check, hrest]
    obtain ⟨rfl, rfl⟩ | ⟨hnull, hcheck⟩ := hsettled
    · have hnone : key.find? again = none := by simpa [Option.filter_some, Json.isNull] using hfound
      rw [hnone]
      rfl
    · have hsome : (key.find? again).map Prod.snd = some value := by
        simpa [Option.filter_some, hnull] using hfound
      obtain ⟨⟨label, json⟩, hfind, rfl⟩ := Option.map_eq_some_iff.mp hsome
      rw [hfind]
      simp only [hcheck]
      rfl

end

end ContractAtlas.Schema

namespace ContractAtlas.Source
set_option autoImplicit false
open Schema

/-! ## Nodes -/

/-- A standard form with the tag of its kind put back. -/
def retagged (kind : NodeKind) (record : Json) : Json :=
  .obj (("nodeType", .str kind.tag) :: record.fields)

theorem lookup_node_type {fields : List (Key × Json × Shape)} {given record : List (String × Json)}
    {tag : String} (h : (nodeFields "" fields).check given = .ok record)
    (hgiven : given.lookup "nodeType" = some (.str tag)) :
    record.lookup "node_type" = some (.str tag) := by
  rw [nodeFields, Fields.ofList, Fields.check] at h
  obtain ⟨⟨id, others⟩, hboth, rfl⟩ := Checked.map_eq_ok h
  have hothers := (Checked.both_eq_ok hboth).2
  rw [textField, Fields.ofList, Fields.check] at hothers
  obtain ⟨⟨json, rest⟩, hboth', rfl⟩ := Checked.map_eq_ok hothers
  have hfirst := (Checked.both_eq_ok hboth').1
  simp only [Key.find?, hgiven] at hfirst
  obtain rfl := Except.ok.inj hfirst
  rfl

/-- The law of standard forms. The standard form of a node that is well-formed, with its tag put back,
is well-formed and has the same standard form again, so that it is read as the same node. -/
theorem check_retagged {raw record : Json} {kind : NodeKind} (hkind : kindOf? raw = some kind)
    (h : kind.shape.check raw = .ok record) :
    kindOf? (retagged kind record) = some kind ∧
    kind.shape.check (retagged kind record) = .ok record ∧
    Node.ofJson (retagged kind record) = Node.ofJson raw := by
  have hkind' : kindOf? (retagged kind record) = some kind := kindOf?_of_lookup (by simp)
  have hcheck : kind.shape.check (retagged kind record) = .ok record := by
    obtain ⟨fields, hshape⟩ := shape_eq kind
    obtain ⟨hraw, hlookup⟩ := field_of_kindOf? hkind
    have hsound : (nodeFields "" fields).Sound := by
      have hsound := sound_shape kind
      rwa [hshape] at hsound
    rw [hshape, hraw] at h
    obtain ⟨outs, houts, rfl⟩ := Checked.map_eq_ok h
    have htag := lookup_node_type houts (lookup_filter_of_lookup hlookup rfl)
    have hkey : Key.mk "nodeType" "node_type" ∈ (nodeFields "" fields).keys :=
      List.mem_cons_of_mem _ List.mem_cons_self
    have htells := (Fields.tells_self hsound (Fields.names_of_check houts)).cons hsound hkey htag rfl
    have hgiven : ∀ field ∈ raw.fields.filter isGiven, isGiven field = true :=
      fun field hfield => (List.mem_filter.mp hfield).2
    rw [hshape]
    exact congrArg (Except.map Json.obj) (Fields.check_standard _ hsound hgiven houts htells)
  refine ⟨hkind', hcheck, ?_⟩
  simp only [Node.ofJson, hkind', hkind, hcheck, h]

/-- A constructor whose number, flag and base functions are given in other types than their own. -/
def coercedFunction : Json := .obj [
  ("nodeType", .str "FunctionDefinition"), ("id", .str "+12"), ("kind", .str "constructor"),
  ("parameters", .arr [.obj [("name", .str "owner"), ("indexed", .int 1),
    ("typeName", .obj [("name", .null)])]]),
  ("modifiers", .arr [.obj [("modifier_name", .obj [("name", .str "once")])]]),
  ("baseFunctions", .arr [.str "0_7.0", .bool true]), ("overrides", .null)]

def constructorForm : Json := .obj [
  ("id", .int 12), ("node_type", .str "FunctionDefinition"), ("name", .str ""),
  ("kind", .str "constructor"), ("visibility", .str ""), ("state_mutability", .str ""),
  ("parameters", .obj [
    ("id", .null), ("node_type", .str "ParameterList"),
    ("parameters", .arr [.obj [
      ("id", .null), ("node_type", .str ""), ("name", .str "owner"), ("visibility", .str ""),
      ("state_variable", .bool false), ("storage_location", .str ""), ("constant", .bool false),
      ("mutability", .str ""), ("function_selector", .str ""), ("indexed", .bool true),
      ("type_name", .obj [("name", .null)]), ("value", .null)]])]),
  ("return_parameters", .obj [
    ("id", .null), ("node_type", .str ""), ("parameters", .arr [])]),
  ("modifiers", .arr [.obj [
    ("id", .null), ("node_type", .str ""),
    ("modifier_name", .obj [("id", .null), ("node_type", .str ""), ("name", .str "once")])]]),
  ("base_functions", .arr [.int 7, .int 1]), ("overrides", .null)]

theorem check_retagged_constructor :
    kindOf? coercedFunction = some .function ∧
      NodeKind.function.shape.check coercedFunction = .ok constructorForm ∧
      NodeKind.function.shape.check (retagged .function constructorForm) = .ok constructorForm ∧
      Node.ofJson (retagged .function constructorForm) = Node.ofJson coercedFunction := by
  have hkind : kindOf? coercedFunction = some .function := by decide
  have hcheck : NodeKind.function.shape.check coercedFunction = .ok constructorForm := rfl
  obtain ⟨-, hagain, hnode⟩ := check_retagged hkind hcheck
  exact ⟨hkind, hcheck, hagain, hnode⟩

end ContractAtlas.Source

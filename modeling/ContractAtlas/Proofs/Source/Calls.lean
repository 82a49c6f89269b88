import ContractAtlas.Source.Calls

/-!
How many calls types and values take: never more than two for each level (`Expression.calls_le`,
`TypeName.calls_le`), and as many as that where mappings stand inside one another (`calls_nested`). So
a member whose parts nest less than half as deep as there is room for calls is taken in
(`memberCalls_le`).
-/
namespace ContractAtlas
set_option autoImplicit false
open Source

/-! ## The deepest call -/

theorem deepest_le_iff {calls : List Nat} {bound : Nat} :
    deepest calls ≤ bound ↔ ∀ n ∈ calls, n ≤ bound := by
  induction calls with
  | nil => simp [deepest]
  | cons n calls ih =>
    rw [deepest, List.foldr_cons, Nat.max_le, List.forall_mem_cons, ← ih]
    rfl

/-! ## Levels -/

namespace Json

mutual

/-- How many lists and objects stand inside one another. -/
def levels : Json → Nat
  | .arr items => 1 + itemLevels items
  | .obj fields => 1 + fieldLevels fields
  | _ => 0

def itemLevels : List Json → Nat
  | [] => 0
  | item :: rest => max item.levels (itemLevels rest)

def fieldLevels : List (String × Json) → Nat
  | [] => 0
  | (_, value) :: rest => max value.levels (fieldLevels rest)

end

theorem levels_le_itemLevels {item : Json} {items : List Json} (h : item ∈ items) :
    item.levels ≤ itemLevels items := by
  induction items with
  | nil => cases h
  | cons first rest ih =>
    rw [itemLevels]
    cases h with
    | head => exact Nat.le_max_left _ _
    | tail _ h => exact Nat.le_trans (ih h) (Nat.le_max_right _ _)

theorem levels_le_fieldLevels {key : String} {value : Json} {fields : List (String × Json)}
    (h : (key, value) ∈ fields) : value.levels ≤ fieldLevels fields := by
  induction fields with
  | nil => cases h
  | cons first rest ih =>
    rw [fieldLevels]
    cases h with
    | head => exact Nat.le_max_left _ _
    | tail _ h => exact Nat.le_trans (ih h) (Nat.le_max_right _ _)

theorem levels_obj_pos (fields : List (String × Json)) : 0 < (Json.obj fields).levels := by
  rw [levels]
  omega

theorem levels_field_lt (fields : List (String × Json)) (key : String) :
    ((Json.obj fields).field key).levels < (Json.obj fields).levels := by
  rw [field_obj, levels]
  cases h : fields.lookup key with
  | none =>
    rw [Option.getD_none, levels]
    · omega
    all_goals simp
  | some value =>
    have hle := levels_le_fieldLevels (mem_of_lookup_eq_some h)
    rw [Option.getD_some]
    omega

theorem levels_lt_of_mem_items {json item : Json} (h : item ∈ json.items) :
    item.levels < json.levels := by
  cases json with
  | arr items =>
    have hle := levels_le_itemLevels (show item ∈ items from h)
    rw [levels]
    omega
  | _ => cases h

mutual

theorem showCalls_le (json : Json) : json.showCalls ≤ json.levels + 1 := by
  cases json with
  | arr items =>
    have hitems := itemCalls_le items
    rw [showCalls, levels]
    omega
  | obj fields =>
    have hfields := fieldCalls_le fields
    rw [showCalls, levels]
    omega
  | _ => simp [showCalls]

theorem itemCalls_le (items : List Json) : itemCalls items ≤ itemLevels items + 1 := by
  cases items with
  | nil => simp [itemCalls]
  | cons item rest =>
    have hitem := showCalls_le item
    have hrest := itemCalls_le rest
    rw [itemCalls, itemLevels]
    omega

theorem fieldCalls_le (fields : List (String × Json)) : fieldCalls fields ≤ fieldLevels fields + 1 := by
  cases fields with
  | nil => simp [fieldCalls]
  | cons entry rest =>
    have hvalue := showCalls_le entry.2
    have hrest := fieldCalls_le rest
    rw [fieldCalls, fieldLevels]
    omega

end

end Json

/-! ## Calls for each level -/

section Bounds

variable (record : Nat)

theorem Expression.deepest_arguments_le {arguments : Json}
    (h : ∀ argument : { argument // argument ∈ arguments.items },
      Expression.calls record argument.val ≤ 2 * argument.val.levels + (2 + record)) :
    deepest (arguments.items.attach.map fun argument => Expression.calls record argument.val) ≤
      2 * arguments.levels + record := by
  rw [deepest_le_iff]
  intro n hn
  obtain ⟨argument, _, rfl⟩ := List.mem_map.mp hn
  have hdeep := Json.levels_lt_of_mem_items argument.property
  have hle := h argument
  omega

theorem Expression.calls_le (json : Json) :
    Expression.calls record json ≤ 2 * json.levels + (2 + record) := by
  fun_induction Expression.calls record json
  case case8 fields node _ _ ih =>
    have hvalue : (node.field "value").levels < node.levels := Json.levels_field_lt fields _
    change _ ≤ 2 * node.levels + _
    omega
  case case10 fields node _ ih =>
    have hoperand : (node.field "subExpression").levels < node.levels :=
      Json.levels_field_lt fields _
    change _ ≤ 2 * node.levels + _
    omega
  case case11 fields node _ ihright ihleft =>
    have hleft : (node.field "leftExpression").levels < node.levels := Json.levels_field_lt fields _
    have hright : (node.field "rightExpression").levels < node.levels :=
      Json.levels_field_lt fields _
    change _ ≤ 2 * node.levels + _
    omega
  case case12 fields node _ _ callee ihcallee iharguments =>
    have hexpression : (node.field "expression").levels < node.levels :=
      Json.levels_field_lt fields _
    have hlist : (node.field "arguments").levels < node.levels := Json.levels_field_lt fields _
    have hcallee : callee ≤ 2 * (node.field "expression").levels + (2 + record) := by
      unfold callee
      split
      · omega
      · exact ihcallee
    have harguments := deepest_arguments_le record iharguments
    change _ ≤ 2 * node.levels + _
    omega
  case case14 fields node _ _ _ _ _ =>
    have hlevels := Json.levels_obj_pos fields
    omega
  all_goals omega

theorem TypeName.calls_le (json : Json) :
    TypeName.calls record json ≤ 2 * json.levels + (2 + record) := by
  fun_induction TypeName.calls record json
  case case3 fields node _ ihvalue ihkey =>
    have hkey : (node.field "keyType").levels < node.levels := Json.levels_field_lt fields _
    have hvalue : (node.field "valueType").levels < node.levels := Json.levels_field_lt fields _
    change _ ≤ 2 * node.levels + _
    omega
  case case4 fields node _ ih =>
    have hbase : (node.field "baseType").levels < node.levels := Json.levels_field_lt fields _
    have hlength : (node.field "length").levels < node.levels := Json.levels_field_lt fields _
    have hle := Expression.calls_le record (node.field "length")
    change _ ≤ 2 * node.levels + _
    omega
  case case1 fields _ _ | case2 fields _ _ =>
    have hlevels := Json.levels_obj_pos fields
    omega
  all_goals omega

/-! ## Members -/

/-- The declarations that a node is made of. -/
def Source.Node.variables : Node → List VariableNode
  | .declaration v => [v]
  | .function f => f.parameters ++ f.returnParameters
  | .event s | .modifier s => s.parameters
  | .struct s => s.members
  | _ => []

/-- A declaration with a type and a value of no more levels than so many. -/
def Source.VariableNode.Shallow (levels : Nat) (v : VariableNode) : Prop :=
  v.typeName.levels ≤ levels ∧ v.value.levels ≤ levels

theorem Source.VariableNode.Shallow.calls_le {levels : Nat} {v : VariableNode}
    (h : v.Shallow levels) : v.calls record ≤ 2 * levels + (2 + record) := by
  obtain ⟨htype, hvalue⟩ := h
  have htypeCalls := TypeName.calls_le record v.typeName
  have hvalueCalls := Expression.calls_le record v.value
  rw [VariableNode.calls]
  omega

theorem Source.parameterCalls_le {levels : Nat} {parameters : List VariableNode}
    (h : ∀ v ∈ parameters, v.Shallow levels) :
    parameterCalls record parameters ≤ 2 * levels + (7 + record) := by
  rw [parameterCalls, deepest_le_iff]
  intro n hn
  obtain ⟨v, hv, rfl⟩ := List.mem_map.mp hn
  have htype := (h v hv).1
  have hcalls := TypeName.calls_le record v.typeName
  omega

theorem Source.Node.calls_le {levels : Nat} {node : Node}
    (h : ∀ v ∈ node.variables, v.Shallow levels) :
    node.calls record ≤ 2 * levels + (7 + record) := by
  cases node with
  | declaration v =>
    have hcalls := (h v (List.mem_singleton.mpr rfl)).calls_le record
    rw [Node.calls]
    omega
  | function f => exact parameterCalls_le record h
  | event s => exact parameterCalls_le record h
  | modifier s => exact parameterCalls_le record h
  | struct s =>
    rw [Node.calls, deepest_le_iff]
    intro n hn
    obtain ⟨v, hv, rfl⟩ := List.mem_map.mp hn
    have hcalls := (h v hv).calls_le record
    omega
  | _ => exact Nat.zero_le _

/-- A raw member of whose parts none has more levels than so many. -/
def Source.ShallowMember (levels : Nat) (raw : Json) : Prop :=
  (raw.field "id").levels ≤ levels ∧
    ∀ node ∈ (Node.ofJson raw).toOption.join, ∀ v ∈ node.variables, v.Shallow levels

instance Source.decidableShallow (levels : Nat) (v : VariableNode) : Decidable (v.Shallow levels) :=
  inferInstanceAs (Decidable (_ ∧ _))

instance Source.decidableShallowMember (levels : Nat) (raw : Json) :
    Decidable (ShallowMember levels raw) :=
  inferInstanceAs (Decidable (_ ∧ _))

theorem Source.memberCalls_le {levels : Nat} {raw : Json} (h : ShallowMember levels raw) :
    memberCalls record raw ≤ 2 * levels + (7 + record) := by
  obtain ⟨hid, hnode⟩ := h
  rw [memberCalls]
  cases hread : Node.ofJson raw with
  | error violations =>
    have hshow := (raw.field "id").showCalls_le
    dsimp only
    omega
  | ok node =>
    cases node with
    | none => exact Nat.zero_le _
    | some node => exact Node.calls_le record (hnode node (by rw [hread]; rfl))

end Bounds

/-! ## Chains -/

/-- Mappings to mappings, so many times, and at the end to nothing. -/
def nestedMapping : Nat → Json
  | 0 => .null
  | n + 1 => .obj [("nodeType", .str "Mapping"), ("valueType", nestedMapping n)]

/-- Two calls for each mapping, and two for the end. -/
theorem TypeName.calls_nested (record n : Nat) : TypeName.calls record (nestedMapping n) = 2 * n + 2 := by
  induction n with
  | zero =>
    rw [nestedMapping, TypeName.calls]
    exact fun _ h => by cases h
  | succ n ih =>
    have hkey : TypeName.calls record .null = 2 := by
      rw [TypeName.calls]
      exact fun _ h => by cases h
    rw [nestedMapping, TypeName.calls]
    change 2 + max (TypeName.calls record .null) (TypeName.calls record (nestedMapping n)) = _
    rw [hkey, ih]
    omega

end ContractAtlas

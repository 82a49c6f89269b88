import ContractAtlas.Json.Value

/-!
The kind of a node: the text under `nodeType` of an object. A value that is no object, or whose tag
is missing or no text, has the empty kind.
-/
namespace ContractAtlas.Json
set_option autoImplicit false

def kind (node : Json) : String := (node.field "nodeType").textOrEmpty

theorem kind_of_not_isObject {node : Json} (h : node.isObject = false) : node.kind = "" := by
  rw [kind, field_of_not_isObject h]
  rfl

theorem exists_fields_of_kind {node : Json} {kind : String} (hkind : node.kind = kind)
    (hne : kind ≠ "") : ∃ fields, node = .obj fields := by
  by_cases hobject : node.isObject = true
  · exact ⟨node.fields, eq_obj_of_isObject hobject⟩
  · have hblank := kind_of_not_isObject (Bool.eq_false_iff.mpr hobject)
    exact absurd (hkind.symm.trans hblank) hne

/-- The kind, or `blank` where there is none. -/
def kindOr (blank : String) (node : Json) : String :=
  if node.kind = "" then blank else node.kind

end ContractAtlas.Json

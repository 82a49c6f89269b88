import ContractAtlas.Disk.Operations

/-!
What can go wrong on the way to an entry. Walking to what a path leads to ends with one of four faults
(`find_goal_error`), of which only a name that is too long does not simply mean that nothing is there.
Such a name is met on every disk alike (`locate_longName`).
-/
namespace ContractAtlas.Disk
set_option autoImplicit false

/-! ## Faults on the way -/

theorem find_goal_error {root : Entry} {links : Nat} {here parts : List String} {fault : Fault}
    (h : find root .goal links here parts = .error fault) :
    fault = .notFound ∨ fault = .notDirectory ∨ fault = .tooManyLinks ∨ fault = .nameTooLong := by
  fun_induction find root .goal links here parts <;> simp_all

theorem locate_goal_error {d : Disk} {p : Path} {fault : Fault}
    (h : d.locate .goal p = .error fault) : fault.meansAbsent = true ∨ fault = .nameTooLong := by
  unfold locate at h
  split at h
  case isTrue =>
    obtain rfl := Except.error.inj h
    exact .inl rfl
  case isFalse =>
    split at h
    case isTrue => exact .inr (Except.error.inj h).symm
    case isFalse =>
      obtain rfl | rfl | rfl | rfl := find_goal_error h
      · exact .inl rfl
      · exact .inl rfl
      · exact .inl rfl
      · exact .inr rfl

theorem locate_nullInPath {d : Disk} {p : Path} (h : d.locate .goal p = .error .nullInPath) :
    p.hasNull = true := by
  unfold locate at h
  split at h
  case isTrue hnull => exact hnull
  case isFalse =>
    split at h
    case isTrue => simp at h
    case isFalse =>
      have hfault := find_goal_error h
      simp at hfault

/-! ## Long names -/

theorem ne_of_longName {name : String} (hlong : nameLimit < name.utf8ByteSize) (short : String)
    (hshort : short.utf8ByteSize ≤ nameLimit) : name ≠ short := by
  rintro rfl
  omega

theorem find_longName {root : Entry} {links : Nat} {here rest : List String} {name : String}
    (hlong : nameLimit < name.utf8ByteSize) :
    find root .goal links here (name :: rest) = .error .nameTooLong := by
  have hne := ne_of_longName hlong
  rw [find]
  case x => exact hne ".." (by decide)
  case x_1 => exact hne "." (by decide)
  case x_2 => exact hne "" (by decide)
  rw [if_neg (by simp), if_pos hlong]

/-- A name is a path of one component. -/
theorem ofString_of_no_slash {name : String} (hslash : '/' ∉ name.toList) (hempty : name ≠ "")
    (hdot : name ≠ ".") : Path.ofString name = ⟨"", [name]⟩ := by
  have hroot : rootOf name.toList = "" := by
    cases hcs : name.toList with
    | nil => rfl
    | cons c rest =>
      have hc : c ≠ '/' := by
        rintro rfl
        simp [hcs] at hslash
      simp [rootOf, hc]
  have hparts : components name = [name] := by
    rw [components, Text.pieces_of_not_mem hslash]
    simp [hempty, hdot]
  rw [Path.ofString, hroot, hparts]

theorem text_of_name (name : String) : Path.text ⟨"", [name]⟩ = name := by
  simp [Path.text]

/-- A name that no entry can have is too long on every disk. -/
theorem locate_longName (d : Disk) {name : String} (hslash : '/' ∉ name.toList)
    (hnull : holdsNull name = false) (hlong : nameLimit < name.utf8ByteSize)
    (hfits : name.utf8ByteSize ≤ pathLimit) :
    d.locate .goal (.ofString name) = .error .nameTooLong := by
  have hne := ne_of_longName hlong
  rw [ofString_of_no_slash hslash (hne "" (by decide)) (hne "." (by decide)), locate, text_of_name,
    if_neg (by simp [Path.hasNull, hnull]), if_neg (Nat.not_lt.mpr hfits)]
  exact find_longName hlong

/-! ## Asking and reading -/

/-- Asking whether there is a folder agrees with looking for one, as far as it can be told. -/
theorem isFolder?_eq {d : Disk} {p : Path} (h : d.locate .goal p ≠ .error .nameTooLong) :
    d.isFolder? p = .ok (d.folder? p).isSome := by
  unfold isFolder? ask folder?
  cases hl : d.locate .goal p with
  | error fault =>
    cases locate_goal_error hl with
    | inl habsent => simp [habsent]
    | inr hlong => exact absurd (hlong ▸ hl) h
  | ok found =>
    obtain ⟨place, entry⟩ := found
    cases entry with
    | none => rfl
    | some e => cases e <;> rfl

theorem isFolder?_nameTooLong {d : Disk} {p : Path} (h : d.locate .goal p = .error .nameTooLong) :
    d.isFolder? p = .error .nameTooLong := by
  simp [isFolder?, ask, h, Fault.meansAbsent]

theorem read_nullInPath {d : Disk} {p : Path} (h : d.read p = .error .nullInPath) :
    p.hasNull = true := by
  unfold read at h
  split at h
  case h_1 fault hl =>
    obtain rfl := Except.error.inj h
    exact locate_nullInPath hl
  case h_2 => split at h <;> simp at h

end ContractAtlas.Disk

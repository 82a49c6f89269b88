import ContractAtlas.Disk.Operations

/-!
Sound trees: every entry of a folder has a name that can stand between slashes, no two entries of a
folder share a name, and no link has a target that no path could have. What is found in a sound tree
is sound (`Entry.Sound.at?`, `find_entry`), and a place is found by its names (`find_of_at?`).
-/
namespace ContractAtlas.Disk
set_option autoImplicit false

/-! ## Sound trees -/

/-- What the name of an entry may be. -/
structure IsName (name : String) : Prop where
  ne_empty : name ≠ ""
  ne_here : name ≠ "."
  ne_above : name ≠ ".."
  no_slash : '/' ∉ name.toList
  no_null : holdsNull name = false
  short : name.utf8ByteSize ≤ nameLimit

inductive Entry.Sound : Entry → Prop
  | file (id : Nat) (content : List UInt8) : Sound (.file id content)
  | link {target : String} (htarget : holdsNull target = false) : Sound (.link target)
  | folder {entries : List (String × Entry)} (hdistinct : (entries.map Prod.fst).Nodup)
      (hname : ∀ e ∈ entries, IsName e.1) (hsound : ∀ e ∈ entries, Sound e.2) :
      Sound (.folder entries)

theorem Entry.Sound.mem {e : Entry} (h : e.Sound) {inner : String × Entry} (hm : inner ∈ e.entries) :
    IsName inner.1 ∧ inner.2.Sound := by
  cases h with
  | file | link => simp [Entry.entries] at hm
  | folder _ hname hsound => exact ⟨hname inner hm, hsound inner hm⟩

/-! ## What is found -/

theorem Entry.Sound.at? {e : Entry} (h : e.Sound) {place : List String} {inner : Entry}
    (hat : e.at? place = some inner) : inner.Sound := by
  induction place generalizing e with
  | nil => cases hat; exact h
  | cons name place ih =>
    rw [Entry.at?] at hat
    cases hl : e.entries.lookup name with
    | none => simp [hl] at hat
    | some next =>
      rw [hl] at hat
      obtain ⟨before, after, hsplit, _⟩ := List.lookup_eq_some_iff.mp hl
      have hm : (name, next) ∈ e.entries := by simp [hsplit]
      exact ih (h.mem hm).2 hat

/-- What a walk along a path finds is what stands at its place. -/
theorem find_entry {root : Entry} {approach : Approach} {links : Nat} {here parts : List String}
    {found : Found} (h : find root approach links here parts = .ok found) :
    found.entry = root.at? found.place := by
  fun_induction find root approach links here parts <;> simp_all
  all_goals
    subst h
    simp_all

theorem Entry.at?_append (e : Entry) (place below : List String) :
    e.at? (place ++ below) = (e.at? place).bind fun inner => inner.at? below := by
  induction place generalizing e with
  | nil => rw [List.nil_append, Entry.at?, Option.bind_some]
  | cons name place ih =>
    rw [List.cons_append, Entry.at?, Entry.at?]
    cases e.entries.lookup name with
    | none => rfl
    | some next => exact ih next

/-- An entry below which something stands is a folder. -/
theorem Entry.eq_folder_of_at? {e inner : Entry} {name : String} {rest : List String}
    (h : e.at? (name :: rest) = some inner) : ∃ entries, e = .folder entries := by
  cases e with
  | folder entries => exact ⟨entries, rfl⟩
  | file | link => simp [Entry.at?, Entry.entries] at h

/-- A place without links on the way is found by its names. -/
theorem find_of_at? {root e : Entry} {links : Nat} {here place : List String}
    (hnames : ∀ name ∈ place, IsName name) (hat : root.at? (here ++ place) = some e)
    (hlink : ∀ target, e ≠ .link target) :
    find root .goal links here place = .ok ⟨here ++ place, some e⟩ := by
  induction place generalizing here with
  | nil =>
    rw [List.append_nil] at hat ⊢
    rw [find, hat]
  | cons name rest ih =>
    have hname := hnames name List.mem_cons_self
    have hlong : ¬nameLimit < name.utf8ByteSize := Nat.not_lt.mpr hname.short
    have hnext : root.at? (here ++ [name] ++ rest) = some e := by simpa using hat
    have hrest : find root .goal links (here ++ [name]) rest = .ok ⟨here ++ name :: rest, some e⟩ := by
      rw [ih (fun n hn => hnames n (List.mem_cons_of_mem name hn)) hnext]
      simp
    rw [find]
    case x => exact hname.ne_above
    case x_1 => exact hname.ne_here
    case x_2 => exact hname.ne_empty
    rw [if_neg (by simp), if_neg hlong]
    rw [Entry.at?_append] at hnext
    cases hstep : root.at? (here ++ [name]) with
    | none => simp [hstep] at hnext
    | some next =>
      rw [hstep, Option.bind_some] at hnext
      cases rest with
      | nil =>
        obtain rfl := Option.some.inj hnext
        cases next with
        | file id content => rfl
        | folder entries => rfl
        | link target => exact absurd rfl (hlink target)
      | cons below rest =>
        obtain ⟨entries, rfl⟩ := Entry.eq_folder_of_at? hnext
        exact hrest

/-- Nothing is found behind a name that is missing. -/
theorem find_of_missing {root : Entry} {links : Nat} {here rest : List String} {name : String}
    (hname : IsName name) (hat : root.at? (here ++ [name]) = none) (hrest : rest ≠ []) :
    find root .goal links here (name :: rest) = .error .notFound := by
  have hlong : ¬nameLimit < name.utf8ByteSize := Nat.not_lt.mpr hname.short
  rw [find]
  case x => exact hname.ne_above
  case x_1 => exact hname.ne_here
  case x_2 => exact hname.ne_empty
  rw [if_neg (by simp), if_neg hlong, hat]
  exact if_neg (by simpa using hrest)

theorem hasNull_of_isName {p : Path} (hnames : ∀ name ∈ p.parts, IsName name) : p.hasNull = false := by
  rw [Path.hasNull, List.any_eq_false]
  intro name hname
  simp [(hnames name hname).no_null]

theorem locate_of_at? {d : Disk} {p : Path} {e : Entry} (hnames : ∀ name ∈ p.parts, IsName name)
    (hshort : p.text.utf8ByteSize ≤ pathLimit)
    (hat : d.root.at? ((if p.isAbsolute then [] else d.here) ++ p.parts) = some e)
    (hlink : ∀ target, e ≠ .link target) :
    d.locate .goal p = .ok ⟨(if p.isAbsolute then [] else d.here) ++ p.parts, some e⟩ := by
  rw [locate, if_neg (by simp [hasNull_of_isName hnames]), if_neg (Nat.not_lt.mpr hshort)]
  exact find_of_at? hnames hat hlink

end ContractAtlas.Disk

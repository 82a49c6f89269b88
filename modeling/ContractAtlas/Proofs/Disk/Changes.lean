import ContractAtlas.Proofs.Disk.Sound

/-!
No change to a disk makes its tree unsound. Whatever place is found, its names are such as entries may
have (`find_isName`), so that what is put there leaves the tree sound (`Entry.Sound.setAt`). Hence every
disk that comes of a fresh one by changes is sound (`Reached.sound`).
-/
namespace ContractAtlas.Disk
set_option autoImplicit false

/-! ## Components -/

/-- What stands between the slashes of a path. -/
structure IsPart (part : String) : Prop where
  no_slash : '/' ∉ part.toList
  no_null : holdsNull part = false

theorem chars_of_mem_components {s part : String} (h : part ∈ components s) :
    '/' ∉ part.toList ∧ ∀ c ∈ part.toList, c ∈ s.toList := by
  obtain ⟨hpiece, _⟩ := List.mem_filter.mp h
  obtain ⟨piece, hmem, rfl⟩ := List.mem_map.mp hpiece
  simpa using Text.mem_pieces hmem

theorem isPart_of_mem_components {s part : String} (hs : holdsNull s = false)
    (h : part ∈ components s) : IsPart part := by
  obtain ⟨hslash, hchars⟩ := chars_of_mem_components h
  have hnull : '\x00' ∉ s.toList := by simpa [holdsNull] using hs
  refine ⟨hslash, ?_⟩
  simpa [holdsNull] using fun hin => hnull (hchars '\x00' hin)

theorem isPart_of_mem_goalParts {target part : String} (ht : holdsNull target = false)
    (h : part ∈ goalParts target) : IsPart part := by
  obtain hmem | hmem := List.mem_append.mp h
  · exact isPart_of_mem_components ht hmem
  · obtain ⟨_, hpart⟩ := List.mem_filter.mp hmem
    obtain rfl | rfl : part = "" ∨ part = "." := by simpa using hpart
    · exact ⟨by decide, by decide⟩
    · exact ⟨by decide, by decide⟩

/-! ## Places -/

theorem isName_append {here : List String} {name : String} (hhere : ∀ n ∈ here, IsName n)
    (hname : IsName name) : ∀ n ∈ here ++ [name], IsName n := by
  intro n hn
  obtain hn | hn := List.mem_append.mp hn
  · exact hhere n hn
  · exact List.mem_singleton.mp hn ▸ hname

theorem isName_of_isPart {name : String} (hpart : IsPart name) (habove : name ≠ "..")
    (hdot : name ≠ ".") (hempty : name ≠ "") (hshort : ¬nameLimit < name.utf8ByteSize) :
    IsName name :=
  ⟨hempty, hdot, habove, hpart.no_slash, hpart.no_null, Nat.not_lt.mp hshort⟩

/-- A walk through a sound tree stays at places whose names entries may have, links or not. -/
theorem find_isName {root : Entry} {approach : Approach} {links : Nat} {here parts : List String}
    {found : Found} (hroot : root.Sound) (hhere : ∀ n ∈ here, IsName n)
    (hparts : ∀ part ∈ parts, IsPart part) (h : find root approach links here parts = .ok found) :
    ∀ n ∈ found.place, IsName n := by
  fun_induction find root approach links here parts with
  | case1 =>
    obtain rfl := Except.ok.inj h
    exact hhere
  | case2 links here rest ih =>
    exact ih (fun n hn => hhere n (List.dropLast_subset here hn))
      (fun part hp => hparts part (List.mem_cons_of_mem _ hp)) h
  | case3 links here rest ih =>
    exact ih hhere (fun part hp => hparts part (List.mem_cons_of_mem _ hp)) h
  | case4 links here rest ih =>
    exact ih hhere (fun part hp => hparts part (List.mem_cons_of_mem _ hp)) h
  | case7 | case9 | case11 | case13 =>
    obtain rfl := Except.ok.inj h
    exact isName_append hhere (isName_of_isPart (hparts _ List.mem_cons_self) ‹_› ‹_› ‹_› ‹_›)
  | case12 links here name rest habove hdot hempty place _ hshort entries _ _ ih =>
    have hname := isName_of_isPart (hparts name List.mem_cons_self) habove hdot hempty hshort
    exact ih (isName_append hhere hname) (fun part hp => hparts part (List.mem_cons_of_mem _ hp)) h
  | case15 here name rest _ _ _ place _ _ target hat _ links ih =>
    have hlink : holdsNull target = false := by
      cases hroot.at? hat with
      | link htarget => exact htarget
    refine ih ?_ ?_ h
    · split
      · simp
      · exact hhere
    · intro part hp
      obtain hp | hp := List.mem_append.mp hp
      · exact isPart_of_mem_goalParts hlink hp
      · exact hparts part (List.mem_cons_of_mem _ hp)
  | _ => cases h

/-! ## Trees -/

theorem mem_setName {name : String} {entry : Option Entry} {entries : List (String × Entry)}
    {inner : String × Entry} (h : inner ∈ Entry.setName name entry entries) :
    inner ∈ entries ∨ inner.1 = name ∧ entry = some inner.2 := by
  have hput : inner ∈ entry.toList.map (name, ·) → inner.1 = name ∧ entry = some inner.2 := by
    intro hin
    obtain ⟨e, he, rfl⟩ := List.mem_map.mp hin
    exact ⟨rfl, Option.mem_toList.mp he⟩
  induction entries with
  | nil => exact .inr (hput h)
  | cons head rest ih =>
    rw [Entry.setName] at h
    split at h
    · obtain h | h := List.mem_append.mp h
      · exact .inr (hput h)
      · exact .inl (List.mem_cons_of_mem head h)
    · obtain rfl | h := List.mem_cons.mp h
      · exact .inl List.mem_cons_self
      · obtain h | h := ih h
        · exact .inl (List.mem_cons_of_mem head h)
        · exact .inr h

theorem nodup_setName {name : String} {entry : Option Entry} {entries : List (String × Entry)}
    (h : (entries.map Prod.fst).Nodup) : ((Entry.setName name entry entries).map Prod.fst).Nodup := by
  induction entries with
  | nil =>
    cases entry with
    | none => exact .nil
    | some e => simp [Entry.setName]
  | cons head rest ih =>
    obtain ⟨hfree, hrest⟩ := List.nodup_cons.mp h
    rw [Entry.setName]
    split
    case isTrue hname =>
      cases entry with
      | none => exact hrest
      | some e => exact List.nodup_cons.mpr ⟨hname ▸ hfree, hrest⟩
    case isFalse hname =>
      refine List.nodup_cons.mpr ⟨?_, ih hrest⟩
      intro hin
      obtain ⟨inner, hinner, heq⟩ := List.mem_map.mp hin
      obtain hold | ⟨hnew, _⟩ := mem_setName hinner
      · exact hfree (heq ▸ List.mem_map_of_mem hold)
      · exact hname (heq.symm.trans hnew)

/-- A folder stays sound if its entries keep their names and stay sound. -/
theorem Entry.Sound.map {entries : List (String × Entry)} {f : String × Entry → String × Entry}
    (hdistinct : (entries.map Prod.fst).Nodup) (hname : ∀ e ∈ entries, IsName e.1)
    (hkeep : ∀ e ∈ entries, (f e).1 = e.1) (hsound : ∀ e ∈ entries, (f e).2.Sound) :
    (Entry.folder (entries.map f)).Sound := by
  have hnames : (entries.map f).map Prod.fst = entries.map Prod.fst := by
    rw [List.map_map]
    exact List.map_congr_left hkeep
  refine .folder (hnames ▸ hdistinct) ?_ ?_
  · intro inner hin
    obtain ⟨e, he, rfl⟩ := List.mem_map.mp hin
    exact hkeep e he ▸ hname e he
  · intro inner hin
    obtain ⟨e, he, rfl⟩ := List.mem_map.mp hin
    exact hsound e he

/-- Putting a sound entry, or none, at a place of names leaves a tree sound. -/
theorem Entry.Sound.setAt {entry : Option Entry} (hentry : ∀ e ∈ entry, e.Sound) {place : List String}
    (hplace : ∀ n ∈ place, IsName n) {old : Entry} (h : old.Sound) : (old.setAt entry place).Sound := by
  fun_induction Entry.setAt entry place old with
  | case1 old =>
    cases entry with
    | none => exact h
    | some e => exact hentry e rfl
  | case2 name entries =>
    cases h with
    | folder hdistinct hname hsound =>
      refine .folder (nodup_setName hdistinct) ?_ ?_
      · intro inner hin
        obtain hold | ⟨hnew, _⟩ := mem_setName hin
        · exact hname inner hold
        · exact hnew ▸ hplace name List.mem_cons_self
      · intro inner hin
        obtain hold | ⟨_, hput⟩ := mem_setName hin
        · exact hsound inner hold
        · exact hentry inner.2 hput
  | case3 name rest entries _ ih =>
    cases h with
    | folder hdistinct hname hsound =>
      refine .map hdistinct hname ?_ ?_
      · rintro ⟨n, e⟩ _
        dsimp only
        split <;> rfl
      · rintro ⟨n, e⟩ he
        dsimp only
        split
        · exact ih e (fun n hn => hplace n (List.mem_cons_of_mem name hn)) (hsound _ he)
        · exact hsound _ he
  | case4 => exact h

theorem appendToAll_eq_map (id : Nat) (octets : List UInt8) (entries : List (String × Entry)) :
    Entry.appendToAll id octets entries = entries.map fun e => (e.1, e.2.appendTo id octets) := by
  induction entries with
  | nil => rfl
  | cons head rest ih => rw [Entry.appendToAll, ih, List.map_cons]

theorem Entry.Sound.appendTo {e : Entry} (h : e.Sound) (id : Nat) (octets : List UInt8) :
    (e.appendTo id octets).Sound := by
  induction h with
  | file i content => exact .file _ _
  | link htarget => exact .link htarget
  | folder hdistinct hname _ ih =>
    rw [Entry.appendTo, appendToAll_eq_map]
    exact .map hdistinct hname (fun _ _ => rfl) ih

/-! ## Changes -/

/-- A disk of a sound tree, the current folder of which has a place that a folder may have. -/
structure Sound (d : Disk) : Prop where
  root : d.root.Sound
  here : ∀ n ∈ d.here, IsName n

/-- A path as it is read from text. -/
def Path.Plain (p : Path) : Prop := ∀ part ∈ p.parts, '/' ∉ part.toList

theorem ofString_plain (s : String) : (Path.ofString s).Plain :=
  fun _ hpart => (chars_of_mem_components hpart).1

theorem locate_isName {d : Disk} (hd : d.Sound) {p : Path} (hp : p.Plain) {approach : Approach}
    {found : Found} (h : d.locate approach p = .ok found) : ∀ n ∈ found.place, IsName n := by
  unfold locate at h
  split at h
  case isTrue => cases h
  case isFalse hnull =>
    split at h
    case isTrue => cases h
    case isFalse =>
      refine find_isName hd.root ?_ ?_ h
      · split
        · simp
        · exact hd.here
      · intro part hpart
        have hfree : ∀ other ∈ p.parts, ¬holdsNull other = true := by
          simpa [Path.hasNull] using hnull
        exact ⟨hp part hpart, by simpa using hfree part hpart⟩

theorem Sound.setAt {d : Disk} (hd : d.Sound) {entry : Option Entry} (hentry : ∀ e ∈ entry, e.Sound)
    {place : List String} (hplace : ∀ n ∈ place, IsName n) :
    Sound { d with root := d.root.setAt entry place } :=
  ⟨hd.root.setAt hentry hplace, hd.here⟩

theorem Sound.makeFolder {d d' : Disk} (hd : d.Sound) {p : Path} (hp : p.Plain)
    (h : d.makeFolder p = .ok d') : d'.Sound := by
  unfold Disk.makeFolder at h
  split at h
  case h_3 place hl =>
    obtain rfl := Except.ok.inj h
    refine hd.setAt ?_ (locate_isName hd hp hl)
    rintro e ⟨⟩
    exact .folder .nil (by simp) (by simp)
  all_goals cases h

theorem Sound.excuse {d d' : Disk} (hd : d.Sound) {p : Path} {fault : Fault}
    (h : d.excuse p fault = .ok d') : d'.Sound := by
  unfold Disk.excuse at h
  split at h
  · exact Except.ok.inj h ▸ hd
  all_goals cases h

theorem Sound.makeFolderIfMissing {d d' : Disk} (hd : d.Sound) {p : Path} (hp : p.Plain)
    (h : d.makeFolderIfMissing p = .ok d') : d'.Sound := by
  unfold Disk.makeFolderIfMissing at h
  split at h
  case h_1 hmade =>
    obtain rfl := Except.ok.inj h
    exact hd.makeFolder hp hmade
  case h_2 => exact hd.excuse h

theorem Sound.makeFolders {d : Disk} (hd : d.Sound) {root : String} {parts : List String}
    (hparts : ∀ part ∈ parts, '/' ∉ part.toList) (count : Nat) :
    (d.makeFolders root parts count).1.Sound := by
  induction count with
  | zero =>
    unfold Disk.makeFolders
    cases h : d.makeFolderIfMissing ⟨root, []⟩ with
    | ok made => exact hd.makeFolderIfMissing (by simp [Path.Plain]) h
    | error fault => exact hd
  | succ count ih =>
    have hp : Path.Plain ⟨root, parts.take (count + 1)⟩ := fun part hpart =>
      hparts part (List.mem_of_mem_take hpart)
    unfold Disk.makeFolders
    dsimp only
    split
    case h_1 made hmade => exact hd.makeFolder hp hmade
    case h_2 =>
      split
      case h_1 above fault habove => exact habove ▸ ih
      case h_2 above habove =>
        have habove' : above.Sound := by
          rw [habove] at ih
          exact ih
        cases hmade : above.makeFolderIfMissing ⟨root, parts.take (count + 1)⟩ with
        | ok made => exact habove'.makeFolderIfMissing hp hmade
        | error fault => exact habove'
    case h_3 fault _ _ =>
      cases hmade : d.excuse ⟨root, parts.take (count + 1)⟩ fault with
      | ok made => exact hd.excuse hmade
      | error fault => exact hd

theorem Sound.makePath {d : Disk} (hd : d.Sound) {p : Path} (hp : p.Plain) : (d.makePath p).1.Sound :=
  hd.makeFolders hp p.parts.length

theorem Sound.openFile {d d' : Disk} (hd : d.Sound) {p : Path} (hp : p.Plain) {place : List String}
    {id : Nat} (h : d.openFile p = .ok (d', place, id)) : d'.Sound ∧ ∀ n ∈ place, IsName n := by
  unfold Disk.openFile at h
  split at h
  case h_2 hl =>
    obtain ⟨rfl, rfl, rfl⟩ := h
    exact ⟨hd, locate_isName hd hp hl⟩
  case h_4 hl =>
    obtain ⟨rfl, rfl, rfl⟩ := h
    have hplace := locate_isName hd hp hl
    refine ⟨⟨hd.root.setAt ?_ hplace, hd.here⟩, hplace⟩
    rintro e ⟨⟩
    exact .file _ _
  all_goals cases h

theorem Sound.write {d d' : Disk} (hd : d.Sound) {p : Path} (hp : p.Plain) {content : List UInt8}
    (h : d.write p content = .ok d') : d'.Sound := by
  unfold Disk.write at h
  split at h
  case h_1 => cases h
  case h_2 opened place id ho =>
    obtain rfl := Except.ok.inj h
    obtain ⟨hopened, hplace⟩ := hd.openFile hp ho
    refine hopened.setAt ?_ hplace
    rintro e ⟨⟩
    exact .file _ _

theorem Sound.append {d : Disk} (hd : d.Sound) (id : Nat) (octets : List UInt8) :
    (d.append id octets).Sound :=
  ⟨hd.root.appendTo id octets, hd.here⟩

theorem Sound.makeLink {d d' : Disk} (hd : d.Sound) {p : Path} (hp : p.Plain) {target : String}
    (h : d.makeLink p target = .ok d') : d'.Sound := by
  unfold Disk.makeLink at h
  split at h
  case isTrue => cases h
  case isFalse hnull =>
    have htarget : holdsNull target = false := by
      cases hn : holdsNull target with
      | false => rfl
      | true => exact absurd (.inl hn) hnull
    split at h
    case isTrue => cases h
    case isFalse =>
      split at h
      case isTrue => cases h
      case isFalse =>
        split at h
        case h_3 place hl =>
          obtain rfl := Except.ok.inj h
          refine hd.setAt ?_ (locate_isName hd hp hl)
          rintro e ⟨⟩
          exact .link htarget
        all_goals cases h

theorem Sound.remove {d d' : Disk} (hd : d.Sound) {p : Path} (hp : p.Plain)
    (h : d.remove p = .ok d') : d'.Sound := by
  unfold Disk.remove at h
  split at h
  case h_3 hl =>
    obtain rfl := Except.ok.inj h
    exact hd.setAt (by simp) (locate_isName hd hp hl)
  all_goals cases h

theorem fresh_sound : fresh.Sound := by
  have hnames : ∀ n ∈ fresh.here, IsName n := by
    intro n hn
    obtain rfl | rfl : n = "tmp" ∨ n = "session" := by simpa [fresh] using hn
    · constructor <;> decide
    · constructor <;> decide
  refine ⟨?_, hnames⟩
  have hsession : (Entry.folder [("session", .folder [])]).Sound :=
    .folder (by simp) (by simpa using hnames "session" (by decide))
      (by simpa using .folder .nil (by simp) (by simp))
  exact .folder (by simp) (by simpa using hnames "tmp" (by decide)) (by simpa using hsession)

/-! ## Reached disks -/

/-- The disks that come of a fresh one by changes. -/
inductive Reached : Disk → Prop
  | fresh : Reached fresh
  | makePath {d : Disk} {p : Path} (hd : Reached d) (hp : p.Plain) : Reached (d.makePath p).1
  | openFile {d d' : Disk} {p : Path} {place : List String} {id : Nat} (hd : Reached d) (hp : p.Plain)
      (h : d.openFile p = .ok (d', place, id)) : Reached d'
  | write {d d' : Disk} {p : Path} {content : List UInt8} (hd : Reached d) (hp : p.Plain)
      (h : d.write p content = .ok d') : Reached d'
  | append {d : Disk} (id : Nat) (octets : List UInt8) (hd : Reached d) : Reached (d.append id octets)
  | makeLink {d d' : Disk} {p : Path} {target : String} (hd : Reached d) (hp : p.Plain)
      (h : d.makeLink p target = .ok d') : Reached d'
  | remove {d d' : Disk} {p : Path} (hd : Reached d) (hp : p.Plain) (h : d.remove p = .ok d') :
      Reached d'

theorem Reached.sound {d : Disk} (h : Reached d) : d.Sound := by
  induction h with
  | fresh => exact fresh_sound
  | makePath _ hp ih => exact ih.makePath hp
  | openFile _ hp h ih => exact (ih.openFile hp h).1
  | write _ hp h ih => exact ih.write hp h
  | append id octets _ ih => exact ih.append id octets
  | makeLink _ hp h ih => exact ih.makeLink hp h
  | remove _ hp h ih => exact ih.remove hp h

end ContractAtlas.Disk

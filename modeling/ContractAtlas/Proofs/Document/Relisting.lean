import ContractAtlas.Proofs.Document.Order

/-!
The order in which folders list their entries. Relisting a sound tree leaves the same entries at the
same places (`Relisted.alike`), so paths lead to the same places (`find_alike`) and walks come to the
same (`walk?_relisted`).
-/
namespace ContractAtlas.Disk
set_option autoImplicit false

/-! ## Relisted trees -/

/-- Trees that differ in the order in which folders list their entries. -/
inductive Relisted : Entry → Entry → Prop
  | refl (e : Entry) : Relisted e e
  | perm {entries others : List (String × Entry)} (h : entries.Perm others) :
    Relisted (.folder entries) (.folder others)
  | inside {before after : List (String × Entry)} {name : String} {e e' : Entry}
    (h : Relisted e e') :
    Relisted (.folder (before ++ (name, e) :: after)) (.folder (before ++ (name, e') :: after))
  | trans {e middle e' : Entry} (h : Relisted e middle) (h' : Relisted middle e') : Relisted e e'

/-- An entry without what is in it. -/
def Entry.shell : Entry → Entry
  | .folder _ => .folder []
  | entry => entry

/-- The same stands at every place, as far as it can be told without listing a folder. -/
def Alike (root root' : Entry) : Prop :=
  ∀ place, (root.at? place).map Entry.shell = (root'.at? place).map Entry.shell

theorem lookup_of_perm {entries others : List (String × Entry)} (h : entries.Perm others)
    (hdistinct : (entries.map Prod.fst).Nodup) (name : String) :
    entries.lookup name = others.lookup name := by
  have hothers : (others.map Prod.fst).Nodup := (h.map Prod.fst).nodup_iff.mp hdistinct
  apply Option.ext
  intro e
  rw [lookup_eq_some_iff_mem hdistinct, lookup_eq_some_iff_mem hothers, h.mem_iff]

theorem Entry.Sound.inside {before after : List (String × Entry)} {name : String} {e e' : Entry}
    (h : (Entry.folder (before ++ (name, e) :: after)).Sound) (he' : e'.Sound) :
    (Entry.folder (before ++ (name, e') :: after)).Sound := by
  cases h with
  | folder hdistinct hname hsound =>
    have hmem {inner : String × Entry} (h : inner ∈ before ++ (name, e') :: after) :
        inner ∈ before ++ (name, e) :: after ∨ inner = (name, e') := by
      simp only [List.mem_append, List.mem_cons] at h ⊢
      obtain h | h | h := h
      · exact .inl (.inl h)
      · exact .inr h
      · exact .inl (.inr (.inr h))
    refine .folder (by simpa using hdistinct) (fun inner hinner => ?_) fun inner hinner => ?_
    · obtain h | rfl := hmem hinner
      · exact hname inner h
      · exact hname (name, e) (by simp)
    · obtain h | rfl := hmem hinner
      · exact hsound inner h
      · exact he'

theorem Relisted.alike {e e' : Entry} (h : Relisted e e') (hs : e.Sound) : e'.Sound ∧ Alike e e' := by
  induction h with
  | refl e => exact ⟨hs, fun place => rfl⟩
  | @perm entries others h =>
    cases hs with
    | folder hdistinct hname hsound =>
      refine ⟨.folder ((h.map Prod.fst).nodup_iff.mp hdistinct)
        (fun e he => hname e (h.mem_iff.mpr he)) (fun e he => hsound e (h.mem_iff.mpr he)), ?_⟩
      intro place
      cases place with
      | nil => rfl
      | cons name rest =>
        rw [Entry.at?, Entry.at?, Entry.entries, Entry.entries, lookup_of_perm h hdistinct]
  | @inside before after name e e' h ih =>
    have hmem : (name, e) ∈ (Entry.folder (before ++ (name, e) :: after)).entries := by
      simp [Entry.entries]
    have he : e.Sound := (hs.mem hmem).2
    obtain ⟨he', halike⟩ := ih he
    refine ⟨hs.inside he', ?_⟩
    intro place
    cases place with
    | nil => rfl
    | cons first rest =>
      rw [Entry.at?, Entry.at?, Entry.entries, Entry.entries, List.lookup_append, List.lookup_append,
        List.lookup_cons, List.lookup_cons]
      cases before.lookup first with
      | some inner => rfl
      | none =>
        cases first == name with
        | true => exact halike rest
        | false => rfl
  | trans h h' ih ih' =>
    obtain ⟨hm, halike⟩ := ih hs
    obtain ⟨he', halike'⟩ := ih' hm
    exact ⟨he', fun place => (halike place).trans (halike' place)⟩

/-! ## Paths in alike trees -/

/-- What is found, without what is in it. -/
def Found.shell (found : Found) : Found := ⟨found.place, found.entry.map Entry.shell⟩

theorem Alike.none {root root' : Entry} (h : Alike root root') {place : List String}
    (hat : root.at? place = none) : root'.at? place = none := by
  have hplace := h place
  rw [hat] at hplace
  exact Option.map_eq_none_iff.mp hplace.symm

theorem Alike.some {root root' : Entry} (h : Alike root root') {place : List String} {e : Entry}
    (hat : root.at? place = some e) : ∃ e', root'.at? place = some e' ∧ e.shell = e'.shell := by
  have hplace := h place
  rw [hat] at hplace
  obtain ⟨e', he', hshell⟩ := Option.map_eq_some_iff.mp hplace.symm
  exact ⟨e', he', hshell.symm⟩

theorem Alike.file {root root' : Entry} (h : Alike root root') {place : List String} {id : Nat}
    {content : List UInt8} (hat : root.at? place = Option.some (.file id content)) :
    root'.at? place = Option.some (.file id content) := by
  obtain ⟨e', he', hshell⟩ := h.some hat
  cases e' with
  | folder => cases hshell
  | file | link => exact he'.trans (congrArg Option.some hshell.symm)

theorem Alike.link {root root' : Entry} (h : Alike root root') {place : List String}
    {target : String} (hat : root.at? place = Option.some (.link target)) :
    root'.at? place = Option.some (.link target) := by
  obtain ⟨e', he', hshell⟩ := h.some hat
  cases e' with
  | folder => cases hshell
  | file | link => exact he'.trans (congrArg Option.some hshell.symm)

theorem Alike.folder {root root' : Entry} (h : Alike root root') {place : List String}
    {entries : List (String × Entry)} (hat : root.at? place = Option.some (.folder entries)) :
    ∃ others, root'.at? place = Option.some (.folder others) := by
  obtain ⟨e', he', hshell⟩ := h.some hat
  cases e' with
  | folder others => exact ⟨others, he'⟩
  | file | link => cases hshell

/-- What a step from a folder depends on: the entry of the next name. -/
theorem find_name {root : Entry} {approach : Approach} {links : Nat} {here rest : List String}
    {name : String} (habove : name ≠ "..") (hhere : name ≠ ".") (hempty : name ≠ "")
    (hmade : ¬(approach = .creation ∧ rest = [""])) (hshort : ¬nameLimit < name.utf8ByteSize) :
    find root approach links here (name :: rest) =
      match root.at? (here ++ [name]) with
      | none => if rest.isEmpty then .ok ⟨here ++ [name], none⟩ else .error .notFound
      | some (.file id content) =>
        if rest.isEmpty then .ok ⟨here ++ [name], some (.file id content)⟩ else .error .notDirectory
      | some (.folder entries) =>
        if rest.isEmpty then .ok ⟨here ++ [name], some (.folder entries)⟩
        else find root approach links (here ++ [name]) rest
      | some (.link target) =>
        if rest.isEmpty ∧ approach = .itself then .ok ⟨here ++ [name], some (.link target)⟩
        else match links with
        | 0 => .error .tooManyLinks
        | links + 1 =>
          find root approach links (if (Path.ofString target).isAbsolute then [] else here)
            (goalParts target ++ rest) := by
  rewrite [find, if_neg hmade, if_neg hshort]
  case x => exact habove
  case x_1 => exact hhere
  case x_2 => exact hempty
  cases root.at? (here ++ [name]) with
  | none => rfl
  | some e => cases e <;> cases links <;> rfl

theorem find_alike {root root' : Entry} (h : Alike root root') (approach : Approach) (links : Nat)
    (here parts : List String) :
    (find root approach links here parts).map Found.shell =
      (find root' approach links here parts).map Found.shell := by
  -- wherever the search asks the one tree for an entry, the other has one of the same shell
  fun_induction find root approach links here parts
  case case1 links here => simp [find, Except.map, Found.shell, h here]
  case case2 ih | case3 ih | case4 ih => simpa [find] using ih
  case case5 hmade => simp_all [find]
  case case6 hmade hlong =>
    rw [find, if_neg hmade, if_pos hlong] <;> assumption
  case case7 links here name rest habove hhere hempty place hmade hshort hat hrest =>
    have hat' : root'.at? (here ++ [name]) = none := h.none hat
    rw [find_name habove hhere hempty hmade hshort, hat']
    simp [hrest, place]
  case case8 links here name rest habove hhere hempty place hmade hshort hat hrest =>
    have hat' : root'.at? (here ++ [name]) = none := h.none hat
    rw [find_name habove hhere hempty hmade hshort, hat']
    simp [hrest]
  case case9 links here name rest habove hhere hempty place hmade hshort id content hat hrest =>
    have hat' : root'.at? (here ++ [name]) = some (.file id content) := h.file hat
    rw [find_name habove hhere hempty hmade hshort, hat']
    simp [hrest, place]
  case case10 links here name rest habove hhere hempty place hmade hshort id content hat hrest =>
    have hat' : root'.at? (here ++ [name]) = some (.file id content) := h.file hat
    rw [find_name habove hhere hempty hmade hshort, hat']
    simp [hrest]
  case case11 links here name rest habove hhere hempty place hmade hshort entries hat hrest =>
    obtain ⟨others, hat'⟩ := h.folder hat
    rw [find_name habove hhere hempty hmade hshort, hat']
    simp [hrest, place, Except.map, Found.shell, Entry.shell]
  case case12 links here name rest habove hhere hempty place hmade hshort entries hat hrest ih =>
    obtain ⟨others, hat'⟩ := h.folder hat
    rw [find_name habove hhere hempty hmade hshort, hat']
    simpa [hrest] using ih
  case case13 links here name rest habove hhere hempty place hmade hshort target hat hrest =>
    have hat' : root'.at? (here ++ [name]) = some (.link target) := h.link hat
    rw [find_name habove hhere hempty hmade hshort, hat']
    simp [hrest, place]
  case case14 here name rest habove hhere hempty place hmade hshort target hat hrest =>
    have hat' : root'.at? (here ++ [name]) = some (.link target) := h.link hat
    rw [find_name habove hhere hempty hmade hshort, hat']
    simp only [if_neg hrest]
  case case15 here name rest habove hhere hempty place hmade hshort target hat hrest links ih =>
    have hat' : root'.at? (here ++ [name]) = some (.link target) := h.link hat
    rw [find_name habove hhere hempty hmade hshort, hat']
    simp only [if_neg hrest]
    exact ih

/-! ## Alike disks -/

theorem locate_entry {d : Disk} {approach : Approach} {p : Path} {found : Found}
    (h : d.locate approach p = .ok found) : found.entry = d.root.at? found.place := by
  unfold locate at h
  split at h
  case isTrue => cases h
  case isFalse =>
    split at h
    case isTrue => cases h
    case isFalse => exact find_entry h

section
variable {d d' : Disk} (h : Alike d.root d'.root) (hhere : d'.here = d.here)
include h hhere

theorem locate_alike (approach : Approach) (p : Path) :
    (d.locate approach p).map Found.shell = (d'.locate approach p).map Found.shell := by
  unfold locate
  split
  · rfl
  · split
    · rfl
    · rw [hhere, find_alike h]

theorem isFolder?_alike (p : Path) : d'.isFolder? p = d.isFolder? p := by
  have hlocate := locate_alike h hhere .goal p
  have hask (found : Found) : found.entry.any Entry.isFolder = found.shell.entry.any Entry.isFolder := by
    obtain ⟨place, entry⟩ := found
    cases entry with
    | none => rfl
    | some e => cases e <;> rfl
  unfold isFolder? ask
  cases hl : d.locate .goal p with
  | error fault =>
    rw [hl] at hlocate
    cases hl' : d'.locate .goal p with
    | error fault' =>
      rw [hl'] at hlocate
      obtain rfl : fault = fault' := Except.error.inj hlocate
      rfl
    | ok found' =>
      rw [hl'] at hlocate
      cases hlocate
  | ok found =>
    rw [hl] at hlocate
    cases hl' : d'.locate .goal p with
    | error fault' =>
      rw [hl'] at hlocate
      cases hlocate
    | ok found' =>
      rw [hl'] at hlocate
      have hshell : found.shell = found'.shell := Except.ok.inj hlocate
      simp only [hask found, hask found', hshell]

theorem folder?_alike {p : Path} {entries : List (String × Entry)} (hf : d.folder? p = some entries) :
    ∃ others, d'.folder? p = some others ∧ Alike (.folder entries) (.folder others) := by
  have hlocate := locate_alike h hhere .goal p
  unfold folder? at hf
  split at hf
  case h_2 => cases hf
  case h_1 place inner hl =>
    obtain rfl : inner = entries := Option.some.inj hf
    have hat := locate_entry hl
    obtain ⟨others, hothers⟩ := h.folder hat.symm
    refine ⟨others, ?_, fun below => ?_⟩
    · rw [hl] at hlocate
      cases hl' : d'.locate .goal p with
      | error fault' =>
        rw [hl'] at hlocate
        cases hlocate
      | ok found' =>
        rw [hl'] at hlocate
        have hplace : place = found'.place := congrArg Found.place (Except.ok.inj hlocate)
        have hat' := locate_entry hl'
        rw [← hplace, hothers] at hat'
        obtain ⟨place', entry'⟩ := found'
        obtain rfl : entry' = some (.folder others) := hat'
        simp [folder?, hl']
    · have hbelow := h (place ++ below)
      rw [Entry.at?_append, Entry.at?_append, ← hat, hothers] at hbelow
      exact hbelow

end

theorem isFolder_shell (e : Entry) : e.shell.isFolder = e.isFolder := by
  cases e <;> rfl

theorem Alike.at? {tree tree' : Entry} (h : Alike tree tree') {place : List String} {e : Entry}
    (hat : tree.at? place = Option.some e) :
    ∃ e', tree'.at? place = Option.some e' ∧ e'.isFolder = e.isFolder := by
  obtain ⟨e', he', hshell⟩ := h.some hat
  refine ⟨e', he', ?_⟩
  rw [← isFolder_shell e', ← isFolder_shell e, hshell]

theorem Alike.symm {tree tree' : Entry} (h : Alike tree tree') : Alike tree' tree :=
  fun place => (h place).symm

theorem IsDocument.alike {tree tree' : Entry} (h : Alike tree tree') {search : Search}
    {place : List String} (hdocument : IsDocument search tree place) :
    IsDocument search tree' place := by
  obtain ⟨⟨e, hat, hfile⟩, haccepted, hdepth⟩ := hdocument
  obtain ⟨e', hat', hsame⟩ := h.at? hat
  exact ⟨⟨e', hat', hsame.trans hfile⟩, haccepted, hdepth⟩

theorem IsSubfolder.alike {tree tree' : Entry} (h : Alike tree tree') {search : Search}
    {place : List String} (hfolder : IsSubfolder search tree place) :
    IsSubfolder search tree' place := by
  obtain ⟨⟨e, hat, hinner⟩, hbelow, hdepth⟩ := hfolder
  obtain ⟨e', hat', hsame⟩ := h.at? hat
  exact ⟨⟨e', hat', hsame.trans hinner⟩, hbelow, hdepth⟩

/-- Walks through alike trees come to the same. -/
theorem Covers.alike {tree tree' : Entry} (h : Alike tree tree') {folder : Path} {search : Search}
    {places places' : List (List String)} {blocked blocked' : Option (List String)}
    (hc : Covers folder search tree places blocked) (hc' : Covers folder search tree' places' blocked') :
    places = places' ∧ blocked = blocked' :=
  hc.unique hc' (fun _ => ⟨.alike h, .alike h.symm⟩) fun _ =>
    ⟨fun hb => ⟨hb.subfolder.alike h, hb.unlistable⟩, fun hb => ⟨hb.subfolder.alike h.symm, hb.unlistable⟩⟩

theorem walk?_relisted {d d' : Disk} (hd : d.root.Sound) (h : Relisted d.root d'.root)
    (hhere : d'.here = d.here) (folder : Path) (search : Search) :
    d'.walk? folder search = d.walk? folder search := by
  obtain ⟨hd', halike⟩ := h.alike hd
  unfold walk?
  cases hf : d.folder? folder with
  | none =>
    cases hf' : d'.folder? folder with
    | none => rfl
    | some others =>
      obtain ⟨entries, hentries, -⟩ := folder?_alike halike.symm hhere.symm hf'
      rw [hf] at hentries
      cases hentries
  | some entries =>
    obtain ⟨others, hf', hinner⟩ := folder?_alike halike hhere hf
    rw [hf', Option.map_some, Option.map_some]
    obtain ⟨places, blocked, hc, hwalk⟩ := covers_visits (folder?_sound hd hf).1 folder search
    obtain ⟨places', blocked', hc', hwalk'⟩ := covers_visits (folder?_sound hd' hf').1 folder search
    obtain ⟨rfl, rfl⟩ := hc.alike hinner hc'
    rw [hwalk, hwalk']

end ContractAtlas.Disk

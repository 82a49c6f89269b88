import ContractAtlas.Document.Load
import ContractAtlas.Proofs.Disk.Faults
import ContractAtlas.Proofs.Json.LongInteger

/-!
How loading a document can end (`loadDocument_cases`). An error about a document carries its path
(`loadDocument_document_path`); for a path that can be one, the only other failure is an integer
literal that is too long (`HasLongInteger`).
-/
namespace ContractAtlas
set_option autoImplicit false

/-- There is a document at the path, and the octets of it stand for the text. -/
def HasText (d : Disk) (p : Disk.Path) (text : List Char) : Prop :=
  ∃ octets, d.read p = .ok octets ∧ Text.decodeDetected octets = .ok text

/-- The text of a document has, where a value is read, an integer literal of too many digits. -/
def HasLongInteger (d : Disk) (p : Disk.Path) (digits : Nat) : Prop :=
  ∃ text, HasText d p text ∧ Json.read text = .error (.longInteger digits)

theorem HasLongInteger.holdsLongRun {d : Disk} {p : Disk.Path} {digits : Nat}
    (h : HasLongInteger d p digits) :
    ∃ text, HasText d p text ∧ Json.HoldsLongRun text digits := by
  obtain ⟨text, htext, hread⟩ := h
  exact ⟨text, htext, Json.read_longInteger hread⟩

/-! ## Decoding -/

theorem decodeDocument_error {p : Disk.Path} {octets : List UInt8} {failure : Failure}
    (h : decodeDocument p octets = .error failure) :
    (∃ cause, failure = documentFailure cause p) ∨
      ∃ text digits, failure = .longInteger digits ∧ Text.decodeDetected octets = .ok text ∧
        Json.read text = .error (.longInteger digits) := by
  unfold decodeDocument at h
  cases hd : Text.decodeDetected octets with
  | error fault =>
    rw [hd] at h
    exact .inl ⟨_, (Except.error.inj h).symm⟩
  | ok text =>
    rw [hd] at h
    cases hr : Json.read text with
    | ok json => simp [hr] at h
    | error e =>
      cases e with
      | malformed complaint position =>
        simp only [hr] at h
        exact .inl ⟨_, (Except.error.inj h).symm⟩
      | longInteger digits =>
        simp only [hr] at h
        exact .inr ⟨text, digits, (Except.error.inj h).symm, rfl, hr⟩

theorem decodeDocument_longInteger {p : Disk.Path} {octets : List UInt8} {text : List Char}
    {digits : Nat} (hd : Text.decodeDetected octets = .ok text)
    (hr : Json.read text = .error (.longInteger digits)) :
    decodeDocument p octets = .error (.longInteger digits) := by
  simp [decodeDocument, hd, hr]

/-! ## Reading -/

theorem readDocument_error {d : Disk} {p : Disk.Path} {failure : Failure}
    (h : readDocument d p = .error failure) :
    (p.hasNull = true ∧ failure = .disk .nullInPath) ∨ (∃ cause, failure = documentFailure cause p) ∨
      ∃ digits, failure = .longInteger digits ∧ HasLongInteger d p digits := by
  unfold readDocument at h
  split at h
  case h_1 ho => exact .inl ⟨Disk.read_nullInPath ho, (Except.error.inj h).symm⟩
  case h_2 fault _ ho => exact .inr (.inl ⟨_, (Except.error.inj h).symm⟩)
  case h_3 octets ho =>
    cases decodeDocument_error h with
    | inl hcause => exact .inr (.inl hcause)
    | inr hlong =>
      obtain ⟨text, digits, hf, hd, hr⟩ := hlong
      exact .inr (.inr ⟨digits, hf, text, ⟨octets, ho, hd⟩, hr⟩)

/-! ## Loading -/

theorem loadDocument_of_readDocument_error {d : Disk} {p : Disk.Path} {failure : Failure}
    (h : readDocument d p = .error failure) : (loadDocument d p).result = .error failure := by
  rw [loadDocument, h]

theorem loadDocument_of_readDocument_ok {d : Disk} {p : Disk.Path} {document : Json}
    (h : readDocument d p = .ok document) :
    (loadDocument d p).result = .error (documentFailure .noSyntaxTree p) ∨
      ∃ c, (loadDocument d p).result = .ok c := by
  cases he : extract? document with
  | none => exact .inl (by simp [loadDocument, h, he])
  | some found => exact .inr ⟨found.1, by simp [loadDocument, h, he]⟩

/-- Loading gives a contract or an error about the document, or it fails for one of two reasons: a
path that cannot be one, and an integer that is too long. -/
theorem loadDocument_cases (d : Disk) (p : Disk.Path) :
    (∃ c, (loadDocument d p).result = .ok c) ∨
      (∃ cause, (loadDocument d p).result = .error (documentFailure cause p)) ∨
      (p.hasNull = true ∧ (loadDocument d p).result = .error (.disk .nullInPath)) ∨
      ∃ digits, (loadDocument d p).result = .error (.longInteger digits) ∧
        HasLongInteger d p digits := by
  cases h : readDocument d p with
  | error failure =>
    rw [loadDocument_of_readDocument_error h]
    obtain ⟨hnull, rfl⟩ | ⟨cause, rfl⟩ | ⟨digits, rfl, hlong⟩ := readDocument_error h
    · exact .inr (.inr (.inl ⟨hnull, rfl⟩))
    · exact .inr (.inl ⟨cause, rfl⟩)
    · exact .inr (.inr (.inr ⟨digits, rfl, hlong⟩))
  | ok document =>
    obtain h | h := loadDocument_of_readDocument_ok h
    · exact .inr (.inl ⟨_, h⟩)
    · exact .inl h

theorem loadDocument_of_hasLongInteger {d : Disk} {p : Disk.Path} {digits : Nat}
    (h : HasLongInteger d p digits) :
    (loadDocument d p).result = .error (.longInteger digits) := by
  obtain ⟨text, ⟨octets, ho, hd⟩, hr⟩ := h
  apply loadDocument_of_readDocument_error
  rw [readDocument, ho]
  exact decodeDocument_longInteger hd hr

theorem HasLongInteger.unique {d : Disk} {p : Disk.Path} {m n : Nat} (hm : HasLongInteger d p m)
    (hn : HasLongInteger d p n) : m = n := by
  have h := (loadDocument_of_hasLongInteger hm).symm.trans (loadDocument_of_hasLongInteger hn)
  injection h with h
  injection h

/-- An error about a document carries the path of the document. -/
theorem loadDocument_document_path {d : Disk} {p : Disk.Path} {e : DocumentError}
    (h : (loadDocument d p).result = .error (.document e)) : e.path = some p.text := by
  obtain ⟨c, hc⟩ | ⟨cause, hc⟩ | ⟨_, hc⟩ | ⟨digits, hc, _⟩ := loadDocument_cases d p
  · simp [hc] at h
  · rw [hc] at h
    injection h with h
    injection h with h
    rw [← h]
  · simp [hc] at h
  · simp [hc] at h

end ContractAtlas

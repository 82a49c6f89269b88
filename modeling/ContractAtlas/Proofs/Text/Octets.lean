import ContractAtlas.Text.Octets

/-!
Documents in ASCII: no octet of them is zero or stands for more than one character, so they are read as
UTF-8, octet by octet (`decodeDetected_of_ascii`).
-/
namespace ContractAtlas.Text
set_option autoImplicit false

def IsAscii (b : UInt8) : Prop := 0 < b ∧ b < 0x80

instance (b : UInt8) : Decidable (IsAscii b) := inferInstanceAs (Decidable (_ ∧ _))

theorem decodeUtf8_of_ascii {octets : List UInt8} (h : ∀ b ∈ octets, IsAscii b) (surrogates : Bool)
    (pos : Nat) :
    decodeUtf8 surrogates pos octets = .ok (octets.map fun b => charOf b.toNat) := by
  induction octets generalizing pos with
  | nil => rfl
  | cons b rest ih =>
    have hb : b < 0x80 := (h b List.mem_cons_self).2
    have hrest := ih (fun other hm => h other (List.mem_cons_of_mem b hm)) (pos + 1)
    unfold decodeUtf8
    rw [if_pos hb, hrest]
    rfl

theorem find?_marks_of_ascii {octets : List UInt8} (h : ∀ b ∈ octets, IsAscii b) :
    marks.find? (fun (mark, _) => mark.isPrefixOf octets) = none := by
  have hmarks : ∀ mark ∈ marks.map Prod.fst, mark.head?.any (fun b => ¬IsAscii b) = true := by decide
  rw [List.find?_eq_none]
  rintro ⟨mark, signature⟩ hm
  have hfirst := hmarks mark (List.mem_map_of_mem hm)
  cases mark with
  | nil => simp at hfirst
  | cons b rest =>
    cases octets with
    | nil => simp
    | cons c more =>
      have hdiffers : b ≠ c := by
        rintro rfl
        simp [h b List.mem_cons_self] at hfirst
      simp [hdiffers]

theorem codecOfZeros_of_ascii {octets : List UInt8} (h : ∀ b ∈ octets, IsAscii b) :
    codecOfZeros octets = .utf8 := by
  have hne : ∀ b ∈ octets, b ≠ 0 := by
    rintro b hb rfl
    exact absurd (h 0 hb).1 (by decide)
  unfold codecOfZeros
  split
  · rw [if_neg (hne _ (by simp)), if_neg (hne _ (by simp))]
  · rw [if_neg (hne _ (by simp)), if_neg (hne _ (by simp))]
  · rfl

theorem decodeDetected_of_ascii {octets : List UInt8} (h : ∀ b ∈ octets, IsAscii b) :
    decodeDetected octets = .ok (octets.map fun b => charOf b.toNat) := by
  have hdetect : detect octets = ⟨.utf8, 0, 0⟩ := by
    rw [detect, find?_marks_of_ascii h, codecOfZeros_of_ascii h]
  rw [decodeDetected, hdetect]
  exact decodeUtf8_of_ascii h true 0

end ContractAtlas.Text

import WorkflowManifest.Text.Hex

namespace WorkflowManifest.Text

theorem toNat_ofNat {n : Nat} (h : n.isValidChar) : (Char.ofNat n).toNat = n := by
  rw [Char.ofNat, dif_pos h]
  rfl

theorem forall_ascii {P : Char → Prop} (h : ∀ n < 128, P (Char.ofNat n)) {c : Char}
    (hc : c.toNat < 128) : P c := by
  rw [← Char.ofNat_toNat c]
  exact h _ hc

theorem hexValue?_range {c : Char} {d : Nat} (h : hexValue? c = some d) :
    (c.toNat = 48 + d ∧ d < 10) ∨
      ((c.toNat = 87 + d ∨ c.toNat = 55 + d) ∧ 10 ≤ d ∧ d < 16) := by
  have hle {c d : Char} : c ≤ d ↔ c.toNat ≤ d.toNat := by
    rw [Char.le_def, UInt32.le_iff_toNat_le]
    rfl
  simp only [hexValue?, hle] at h
  have h0 : '0'.toNat = 48 := rfl
  have h9 : '9'.toNat = 57 := rfl
  have ha : 'a'.toNat = 97 := rfl
  have hf : 'f'.toNat = 102 := rfl
  have hA : 'A'.toNat = 65 := rfl
  have hF : 'F'.toNat = 70 := rfl
  split at h
  · cases h
    omega
  split at h
  · cases h
    omega
  split at h
  · cases h
    omega
  · cases h

theorem hexValue?_bounds {c : Char} {d : Nat} (h : hexValue? c = some d) :
    d < 16 ∧ c.utf8Size = 1 := by
  have hrange := hexValue?_range h
  have hc : c.toNat < 128 := by omega
  refine ⟨by omega, ?_⟩
  exact Char.utf8Size_eq_one_iff.2 (UInt32.le_iff_toNat_le.2 (Nat.le_of_lt_succ hc))

end WorkflowManifest.Text

import WorkflowManifest.Proofs.Text.Characters
import WorkflowManifest.Text.Lowercase

namespace WorkflowManifest.Text

variable {c : Char}

theorem lowerRows_clear : ∀ r ∈ lowerRows, r.last < 128 ∨ (r.first = 0x212a ∧ r.last = 0x212a) ∨
    (128 ≤ r.target ∧
      (r.target + (r.last - r.first) < 0xd800 ∨
        (0xdfff < r.target ∧ r.target + (r.last - r.first) < 0x110000)) ∧
      ∀ b ∈ blankRanges, (r.last < b.1 ∨ b.2 < r.first) ∧
        (r.target + (r.last - r.first) < b.1 ∨ b.2 < r.target)) := by
  decide +kernel

theorem isBlank_eq_false (h : ∀ b ∈ blankRanges, c.toNat < b.1 ∨ b.2 < c.toNat) :
    isBlank c = false := by
  rw [isBlank, List.any_eq_false]
  intro b hb
  simp only [Bool.and_eq_true, decide_eq_true_eq]
  have := h b hb
  omega

theorem lowerChars_of_not_ascii (h : 128 ≤ c.toNat) (hi : c ≠ '\u0130') (hk : c ≠ '\u212a') :
    ∃ d, lowerChars c = [d] ∧ 128 ≤ d.toNat ∧ isBlank d = isBlank c := by
  rw [lowerChars, if_neg (by omega), if_neg hi]
  split
  next r hr =>
    have hcovers := List.find?_some hr
    simp only [FoldRow.covers, Bool.and_eq_true, decide_eq_true_eq] at hcovers
    obtain ⟨⟨hfirst, hlast⟩, -⟩ := hcovers
    obtain hascii | ⟨hkelvin, hkelvin'⟩ | ⟨hhigh, hvalid, hblank⟩ :=
      lowerRows_clear r (List.mem_of_find?_eq_some hr)
    · omega
    · have hcode : c.toNat = 0x212a := by omega
      rw [← Char.ofNat_toNat c, hcode] at hk
      exact absurd rfl hk
    · have hcode : (Char.ofNat (r.target + (c.toNat - r.first))).toNat =
          r.target + (c.toNat - r.first) := toNat_ofNat (show _ ∨ _ by omega)
      refine ⟨_, rfl, by omega, ?_⟩
      rw [isBlank_eq_false fun b hb => ?_, isBlank_eq_false fun b hb => ?_]
      · have := (hblank b hb).1
        omega
      · have := (hblank b hb).2
        omega
  next => exact ⟨c, rfl, h, rfl⟩

end WorkflowManifest.Text

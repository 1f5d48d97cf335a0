import WorkflowManifest.Proofs.Json.Grammar
import WorkflowManifest.Proofs.Json.NumberText

namespace WorkflowManifest

theorem Digit.char_of_ofChar? {c : Char} {d : Digit} (h : ofChar? c = some d) : c = d.char := by
  rw [ofChar?] at h
  split at h
  next hc =>
    cases h
    have hcode : 48 + (c.toNat - 48) = c.toNat := by omega
    rw [char, hcode, Char.ofNat_toNat]
  next => cases h

namespace Json

open Grammar

namespace Number

section Pushing

variable {n : Number} {d : Digit}

theorem bodyChars_pushWhole {m : Number} (hn : n.fraction = []) (h : n.pushWhole? d = some m) :
    m.bodyChars = n.bodyChars ++ [d.char] ∧ m.fraction = [] ∧ m.exponent = n.exponent := by
  obtain ⟨negative, whole, fraction, exponent⟩ := n
  cases hn
  cases whole with
  | zero => cases h
  | lead first rest =>
    cases h
    simp [bodyChars, Whole.digits, fractionChars]

theorem bodyChars_pushFraction_nil (hn : n.fraction = []) :
    (n.pushFraction d).bodyChars = n.bodyChars ++ ['.', d.char] := by
  simp [bodyChars, pushFraction, hn, fractionChars]

theorem bodyChars_pushFraction (hn : n.fraction ≠ []) :
    (n.pushFraction d).bodyChars = n.bodyChars ++ [d.char] := by
  obtain ⟨e, es, hes⟩ := List.exists_cons_of_ne_nil hn
  simp [bodyChars, pushFraction, hes, fractionChars]

end Pushing

namespace Scan

theorem isMark_iff {c : Char} : isMark c = true ↔ c = 'e' ∨ c = 'E' := by
  simp [isMark]

def Follows : Scan → List Char → Prop
  | .minus, cs => cs = ['-']
  | .whole n, cs => n.fraction = [] ∧ n.exponent = none ∧ cs = n.bodyChars
  | .point n, cs => n.fraction = [] ∧ n.exponent = none ∧ cs = n.bodyChars ++ ['.']
  | .fraction n, cs => n.fraction ≠ [] ∧ n.exponent = none ∧ cs = n.bodyChars
  | .mark n, cs => ∃ m, (m = 'e' ∨ m = 'E') ∧ cs = n.bodyChars ++ [m]
  | .sign n negative, cs =>
    ∃ m, (m = 'e' ∨ m = 'E') ∧ cs = n.bodyChars ++ [m, if negative then '-' else '+']
  | .exponent n, cs => n.exponent ≠ none ∧ NumberText cs n

theorem follows_ofDigit (negative : Bool) (d : Digit) :
    Follows (.whole { negative, whole := .ofDigit d })
      ((if negative then ['-'] else []) ++ [d.char]) := by
  refine ⟨rfl, rfl, ?_⟩
  have hdigits : ∀ d, (Whole.ofDigit d).digits = [d] := by decide
  simp [bodyChars, hdigits, fractionChars]

theorem start?_follows {c : Char} {s : Scan} (h : start? c = some s) : s.Follows [c] := by
  rw [start?] at h
  split at h
  next hc =>
    cases h
    rw [hc]
    rfl
  next =>
    obtain ⟨d, hd, rfl⟩ := Option.map_eq_some_iff.1 h
    rw [Digit.char_of_ofChar? hd]
    exact follows_ofDigit false d

theorem follows_startExponent {n : Number} {m : Char} (hm : m = 'e' ∨ m = 'E') (negative : Bool)
    {sign : List Char} (hsign : if negative then sign = ['-'] else sign = [] ∨ sign = ['+'])
    (d : Digit) :
    Follows (.exponent (n.startExponent negative d)) (n.bodyChars ++ m :: sign ++ [d.char]) := by
  have he : ExponentText (some ⟨negative, d, []⟩) (m :: sign ++ [d.char]) := .some hm hsign
  exact ⟨Option.some_ne_none _, _, he, List.append_assoc n.bodyChars (m :: sign) [d.char]⟩

theorem follows_pushExponent {n : Number} {cs : List Char} (hn : n.exponent ≠ none)
    (h : NumberText cs n) (d : Digit) :
    Follows (.exponent (n.pushExponent d)) (cs ++ [d.char]) := by
  obtain ⟨negative, whole, fraction, exponent⟩ := n
  obtain ⟨tail, htail, rfl⟩ := h
  cases htail with
  | none => exact absurd rfl hn
  | @some e mark sign hmark hsign =>
    have he : ExponentText (some { e with rest := e.rest ++ [d] })
        (mark :: sign ++ (e.first :: (e.rest ++ [d])).map Digit.char) := .some hmark hsign
    refine ⟨Option.some_ne_none _, _, he, ?_⟩
    simp only [List.map_cons, List.map_append, List.append_assoc, List.cons_append]
    rfl

theorem move_follows {s t : Scan} {cs : List Char} {c : Char} (h : s.Follows cs)
    (hm : s.move c = .more t) : t.Follows (cs ++ [c]) := by
  cases s with
  | minus =>
    obtain rfl : cs = ['-'] := h
    simp only [move] at hm
    split at hm
    next d hd =>
      cases hm
      rw [Digit.char_of_ofChar? hd]
      exact follows_ofDigit true d
    next => cases hm
  | whole n =>
    obtain ⟨hf, he, rfl⟩ := h
    simp only [move] at hm
    split at hm
    next d hd =>
      split at hm
      next m hpush =>
        cases hm
        obtain ⟨hbody, hmf, hme⟩ := bodyChars_pushWhole hf hpush
        rw [Digit.char_of_ofChar? hd]
        exact ⟨hmf, hme.trans he, hbody.symm⟩
      next => cases hm
    next =>
      split at hm
      next hc =>
        cases hm
        exact ⟨hf, he, by rw [hc]⟩
      next =>
        split at hm
        next hc =>
          cases hm
          exact ⟨c, isMark_iff.1 hc, rfl⟩
        next => cases hm
  | point n =>
    obtain ⟨hf, he, rfl⟩ := h
    simp only [move] at hm
    split at hm
    next d hd =>
      cases hm
      refine ⟨by simp [pushFraction], he, ?_⟩
      rw [Digit.char_of_ofChar? hd, bodyChars_pushFraction_nil hf, List.append_assoc]
      rfl
    next => cases hm
  | fraction n =>
    obtain ⟨hf, he, rfl⟩ := h
    simp only [move] at hm
    split at hm
    next d hd =>
      cases hm
      refine ⟨by simp [pushFraction], he, ?_⟩
      rw [Digit.char_of_ofChar? hd, bodyChars_pushFraction hf]
    next =>
      split at hm
      next hc =>
        cases hm
        exact ⟨c, isMark_iff.1 hc, rfl⟩
      next => cases hm
  | mark n =>
    obtain ⟨m, hmark, rfl⟩ := h
    simp only [move] at hm
    split at hm
    next d hd =>
      cases hm
      rw [Digit.char_of_ofChar? hd]
      exact follows_startExponent hmark false (.inl rfl) d
    next =>
      split at hm
      next hc =>
        cases hm
        exact ⟨m, hmark, by simp [hc]⟩
      next =>
        split at hm
        next hc =>
          cases hm
          exact ⟨m, hmark, by simp [hc]⟩
        next => cases hm
  | sign n negative =>
    obtain ⟨m, hmark, rfl⟩ := h
    simp only [move] at hm
    split at hm
    next d hd =>
      cases hm
      rw [Digit.char_of_ofChar? hd]
      cases negative with
      | true => exact follows_startExponent hmark true rfl d
      | false => exact follows_startExponent hmark false (.inr rfl) d
    next => cases hm
  | exponent n =>
    obtain ⟨he, htext⟩ := h
    simp only [move] at hm
    split at hm
    next d hd =>
      cases hm
      rw [Digit.char_of_ofChar? hd]
      exact follows_pushExponent he htext d
    next => cases hm

theorem past_follows {s t : Scan} {cs ds : List Char} (h : s.Follows cs)
    (hp : s.past ds = some t) : t.Follows (cs ++ ds) := by
  induction ds generalizing s cs with
  | nil =>
    obtain rfl : s = t := by simpa [past] using hp
    simpa using h
  | cons d ds ih =>
    rw [past] at hp
    split at hp
    next u hu =>
      have hrest := ih (move_follows h hu) hp
      rwa [List.append_assoc] at hrest
    next => cases hp

theorem numberText_of_finish? {s : Scan} {cs : List Char} {n : Number} (h : s.Follows cs)
    (hn : s.finish? = some n) : NumberText cs n := by
  have hbare {m : Number} (he : m.exponent = none) (hcs : cs = m.bodyChars) : NumberText cs m := by
    refine ⟨[], he ▸ .none, ?_⟩
    rw [hcs, bodyChars, List.append_nil]
  cases s with
  | whole m =>
    cases hn
    exact hbare h.2.1 h.2.2
  | fraction m =>
    cases hn
    exact hbare h.2.1 h.2.2
  | exponent m =>
    cases hn
    exact h.2
  | _ => cases hn

theorem past_exponentText {n : Number} {tail : List Char} (h : ExponentText n.exponent tail) :
    (last { n with exponent := none }).past tail = some (last n) := by
  obtain ⟨negative, whole, fraction, exponent⟩ := n
  cases h with
  | none => rfl
  | @some e mark sign hmark hsign =>
    obtain ⟨plus, hplus, rfl⟩ : ∃ plus, (plus = [] ∨ plus = ['+']) ∧
        sign = if e.negative then ['-'] else plus := by
      cases he : e.negative with
      | true => exact ⟨[], .inl rfl, by simpa [he] using hsign⟩
      | false => exact ⟨sign, by simpa [he] using hsign, rfl⟩
    exact past_marked hplus (last_bare _) (isMark_iff.2 hmark) e

theorem scan_numberText {cs : List Char} {n : Number} (h : NumberText cs n) :
    ∃ c ds s, cs = c :: ds ∧ start? c = some s ∧ s.past ds = some (last n) := by
  obtain ⟨tail, htail, rfl⟩ := h
  exact scan_body n (past_exponentText htail)

end Scan

end Number

end Json

end WorkflowManifest

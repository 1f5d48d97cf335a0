import WorkflowManifest.Proofs.Json.Grammar
import WorkflowManifest.Proofs.Json.Runs
import WorkflowManifest.Proofs.Text.Characters

namespace WorkflowManifest

namespace Text

def shifted (n : Nat) (hs : List Char) : Nat :=
  hs.foldl (fun n c => 16 * n + (hexValue? c).getD 0) n

end Text

namespace Json.Grammar

theorem Hex.values {hs : List Char} {code : Nat} (h : Hex hs code) :
    ∃ a b c d m n p q, hs = [a, b, c, d] ∧ Text.hexValue? a = some m ∧ Text.hexValue? b = some n ∧
      Text.hexValue? c = some p ∧ Text.hexValue? d = some q ∧
      16 * (16 * (16 * m + n) + p) + q = code := by
  obtain ⟨a, b, c, d, rfl⟩ : ∃ a b c d, hs = [a, b, c, d] := List.length_eq_four.1 h.four
  obtain ⟨m, ha⟩ := Option.isSome_iff_exists.1 (h.digits a (by simp))
  obtain ⟨n, hb⟩ := Option.isSome_iff_exists.1 (h.digits b (by simp))
  obtain ⟨p, hc⟩ := Option.isSome_iff_exists.1 (h.digits c (by simp))
  obtain ⟨q, hd⟩ := Option.isSome_iff_exists.1 (h.digits d (by simp))
  have hcode := h.number
  simp only [Text.hexNumber, List.foldl_cons, List.foldl_nil, ha, hb, hc, hd,
    Option.getD_some] at hcode
  exact ⟨a, b, c, d, m, n, p, q, rfl, ha, hb, hc, hd, by omega⟩

theorem Hex.lt {hs : List Char} {code : Nat} (h : Hex hs code) : code < 0x10000 := by
  obtain ⟨_, _, _, _, m, n, p, q, _, ha, hb, hc, hd, hcode⟩ := h.values
  have hm := (Text.hexValue?_bounds ha).1
  have hn := (Text.hexValue?_bounds hb).1
  have hp := (Text.hexValue?_bounds hc).1
  have hq := (Text.hexValue?_bounds hd).1
  omega

end Json.Grammar

namespace Json.Reader

open Grammar
open Text (shifted)

theorem simpleEscape?_iff {e c : Char} : simpleEscape? e = some c ↔ (e, c) ∈ shortEscapes := by
  unfold simpleEscape?
  split <;> simp_all [shortEscapes, eq_comm]

section Complete

variable {role : Role} {text : String}

theorem step_hexDigit {c : Char} {d : Nat} (hd : Text.hexValue? c = some d) (bytes n : Nat)
    (high : Option Nat) :
    step (.string (.hex bytes (some n) high) text role) c =
      if bytes + 1 < 4 then .ok (.string (.hex (bytes + 1) (some (16 * n + d)) high) text role)
      else endHex (16 * n + d) high text role := by
  simp only [step, stepString, stepHex, hd, (Text.hexValue?_bounds hd).2]

theorem hex_leads {hs : List Char} {code : Nat} {high : Option Nat} {t : State}
    (h : Hex hs code) (ht : endHex code high text role = .ok t) :
    Leads (.string (.hex 0 (some 0) high) text role) hs t := by
  obtain ⟨a, b, c, d, m, n, p, q, rfl, ha, hb, hc, hd, hcode⟩ := h.values
  have hcode : 16 * (16 * (16 * (16 * 0 + m) + n) + p) + q = code := by omega
  apply Leads.cons (step_hexDigit ha 0 0 high)
  apply Leads.cons (step_hexDigit hb 1 _ high)
  apply Leads.cons (step_hexDigit hc 2 _ high)
  apply Leads.one
  rw [step_hexDigit hd, if_neg (by decide), hcode, ht]

theorem endHex_char (c : Char) :
    endHex c.toNat none text role = .ok (.string .plain (text.push c) role) := by
  have hvalid : c.toNat < 0xD800 ∨ 0xDFFF < c.toNat ∧ c.toNat < 0x110000 := c.valid
  have hl : isLowSurrogate c.toNat = false := by
    simp [isLowSurrogate]
    omega
  have hh : isHighSurrogate c.toNat = false := by
    simp [isHighSurrogate]
    omega
  simp [endHex, hl, hh, Char.ofNat_toNat]

theorem endHex_high {high : Nat} (h : 0xD800 ≤ high ∧ high < 0xDC00) :
    endHex high none text role = .ok (.string (.pairBackslash high) text role) := by
  have hl : isLowSurrogate high = false := by
    simp [isLowSurrogate]
    omega
  have hh : isHighSurrogate high = true := by simpa [isHighSurrogate] using h
  simp [endHex, hl, hh]

theorem endHex_low {high low : Nat} {c : Char} (h : Pair high low c) :
    endHex low (some high) text role = .ok (.string .plain (text.push c) role) := by
  have hl : isLowSurrogate low = true := by simpa [isLowSurrogate] using h.isLow
  have hchar : pairChar high low = c := by rw [pairChar, ← h.code, Char.ofNat_toNat]
  simp [endHex, hl, hchar]

theorem chars_lead {cs ds : List Char} (h : Chars cs ds) (text : String) :
    Leads (.string .plain text role) cs (.string .plain (ds.foldl String.push text) role) := by
  induction h generalizing text with
  | nil => exact .nil _
  | @plain c cs ds hquote hslash hcontrol _ ih =>
    apply Leads.cons _ (ih (text.push c))
    simp [step, stepString, hquote, hslash, Nat.not_lt.2 hcontrol]
  | @short e c cs ds hc _ ih =>
    have he : e ≠ 'u' := by
      rintro rfl
      simp [shortEscapes] at hc
    apply Leads.cons rfl
    apply Leads.cons _ (ih (text.push c))
    simp [step, stepString, he, simpleEscape?_iff.2 hc]
  | @unit hs cs ds c hc _ ih =>
    apply Leads.cons rfl
    apply Leads.cons rfl
    exact (hex_leads hc (endHex_char c)).append (ih (text.push c))
  | @pair hs ls cs ds high low c hhigh hlow hc _ ih =>
    have hsecond : Leads (.string (.pairBackslash high) text role) ('\\' :: 'u' :: ls)
        (.string .plain (text.push c) role) :=
      .cons rfl (.cons rfl (hex_leads hlow (endHex_low hc)))
    have hfirst := (hex_leads hhigh (endHex_high hc.isHigh)).append hsecond
    apply Leads.cons rfl
    apply Leads.cons rfl
    exact hfirst.append (ih (text.push c))

theorem toList_foldl_push (cs : List Char) (text : String) :
    (cs.foldl String.push text).toList = text.toList ++ cs := by
  induction cs generalizing text with
  | nil => simp
  | cons c cs ih => simp [ih]

theorem body_leads {body : List Char} {s : String} {t : State} (h : Chars body s.toList)
    (ht : endString s role = .ok t) : Leads (.string .plain "" role) (body ++ ['"']) t := by
  have hs : s.toList.foldl String.push "" = s := by
    apply String.toList_injective
    simp [toList_foldl_push]
  have hbody : Leads (.string .plain "" role) _ _ := chars_lead h ""
  rw [hs] at hbody
  exact hbody.append (.one ht)

end Complete

section Sound

structure HexRest (bytes n : Nat) (hs : List Char) (code : Nat) : Prop where
  length : hs.length = max 1 (4 - bytes)
  digits : ∀ c ∈ hs, (Text.hexValue? c).isSome
  number : shifted n hs = code

theorem HexRest.hex {hs : List Char} {code : Nat} (h : HexRest 0 0 hs code) : Hex hs code where
  four := h.length
  digits := h.digits
  number := h.number

theorem HexRest.cons {c : Char} {d bytes n code : Nat} {hs : List Char}
    (hd : Text.hexValue? c = some d) (hb : bytes + 1 < 4)
    (h : HexRest (bytes + 1) (16 * n + d) hs code) : HexRest bytes n (c :: hs) code where
  length := by
    rw [List.length_cons, h.length]
    omega
  digits := List.forall_mem_cons.2 ⟨by rw [hd]; rfl, h.digits⟩
  number := by
    rw [shifted, List.foldl_cons, hd]
    exact h.number

theorem HexRest.last {c : Char} {d bytes n : Nat} (hd : Text.hexValue? c = some d)
    (hb : ¬ bytes + 1 < 4) : HexRest bytes n [c] (16 * n + d) where
  length := by
    rw [List.length_singleton]
    omega
  digits := List.forall_mem_singleton.2 (by rw [hd]; rfl)
  number := by
    rw [shifted, List.foldl_cons, hd]
    rfl

inductive CodeRest : Option Nat → Nat → List Char → List Char → Prop
  | unit {code : Nat} {cs ds : List Char} (hl : isLowSurrogate code = false)
      (hh : isHighSurrogate code = false) (h : Chars cs ds) :
      CodeRest none code cs (Char.ofNat code :: ds)
  | first {code low : Nat} {ls cs ds : List Char} (hh : isHighSurrogate code = true)
      (hls : HexRest 0 0 ls low) (h : CodeRest (some code) low cs ds) :
      CodeRest none code ('\\' :: 'u' :: ls ++ cs) ds
  | second {high low : Nat} {cs ds : List Char} (hl : isLowSurrogate low = true)
      (h : Chars cs ds) : CodeRest (some high) low cs (pairChar high low :: ds)

theorem pair_pairChar {high low : Nat} (hh : isHighSurrogate high = true)
    (hl : isLowSurrogate low = true) : Pair high low (pairChar high low) := by
  simp only [isHighSurrogate, isLowSurrogate, Bool.and_eq_true, decide_eq_true_eq] at hh hl
  refine ⟨hh, hl, Text.toNat_ofNat (.inr ?_)⟩
  omega

theorem CodeRest.chars {hs cs ds : List Char} {code : Nat} (hhs : HexRest 0 0 hs code)
    (h : CodeRest none code cs ds) : Chars ('\\' :: 'u' :: hs ++ cs) ds := by
  cases h with
  | unit hl hh h =>
    have hvalid : code.isValidChar := by
      have hlt := hhs.hex.lt
      simp only [isHighSurrogate, isLowSurrogate, Bool.and_eq_false_iff,
        decide_eq_false_iff_not] at hl hh
      unfold Nat.isValidChar
      omega
    have hhex := hhs.hex
    rw [← Text.toNat_ofNat hvalid] at hhex
    exact .unit hhex h
  | first hh hls h =>
    cases h with
    | second hl h =>
      have hpair := Chars.pair hhs.hex hls.hex (pair_pairChar hh hl) h
      simpa using hpair

def Phase.Rest : Phase → List Char → List Char → Prop
  | .plain, cs, ds => Chars cs ds
  | .escape, cs, ds => Chars ('\\' :: cs) ds
  | .hex bytes code high, cs, ds => ∃ n hs rest m, code = some n ∧ cs = hs ++ rest ∧
      HexRest bytes n hs m ∧ CodeRest high m rest ds
  | .pairBackslash high, cs, ds => ∃ ls rest low, cs = '\\' :: 'u' :: ls ++ rest ∧
      HexRest 0 0 ls low ∧ CodeRest (some high) low rest ds
  | .pairLetter high, cs, ds => ∃ ls rest low, cs = 'u' :: ls ++ rest ∧
      HexRest 0 0 ls low ∧ CodeRest (some high) low rest ds

/-- A character that goes on with a string adds to it what the rest then no longer adds. -/
def GoesOn (phase : Phase) (text : String) (role : Role) (c : Char) (t : State) : Prop :=
  ∃ phase' added, t = .string phase' (added.foldl String.push text) role ∧
    ∀ cs ds, Phase.Rest phase' cs ds → phase.Rest (c :: cs) (added ++ ds)

variable {role : Role} {text : String} {t : State}

theorem endHex_goesOn {code : Nat} {high : Option Nat} (h : endHex code high text role = .ok t) :
    ∃ phase added, t = .string phase (added.foldl String.push text) role ∧
      ∀ cs ds, Phase.Rest phase cs ds → CodeRest high code cs (added ++ ds) := by
  cases high with
  | some high =>
    rw [endHex] at h
    split at h
    next hl =>
      cases h
      exact ⟨.plain, [pairChar high code], rfl, fun cs ds hrest => .second hl hrest⟩
    next => cases h
  | none =>
    rw [endHex] at h
    split at h
    · cases h
    next hl =>
      split at h
      next hh =>
        cases h
        refine ⟨.pairBackslash code, [], rfl, ?_⟩
        rintro cs ds ⟨ls, rest, low, rfl, hls, hrest⟩
        exact .first hh hls hrest
      next hh =>
        cases h
        refine ⟨.plain, [Char.ofNat code], rfl, fun cs ds hrest => ?_⟩
        exact .unit (Bool.eq_false_iff.2 hl) (Bool.eq_false_iff.2 hh) hrest

theorem stepHex_some {bytes n d : Nat} {high : Option Nat} {c : Char}
    (hd : Text.hexValue? c = some d)
    (h : stepHex bytes (some n) high text role c = .ok t) :
    GoesOn (.hex bytes (some n) high) text role c t := by
  simp only [stepHex, hd, (Text.hexValue?_bounds hd).2] at h
  split at h
  next hb =>
    cases h
    refine ⟨.hex (bytes + 1) (some (16 * n + d)) high, [], rfl, ?_⟩
    rintro cs ds ⟨m, hs, rest, code, hm, rfl, hhs, hrest⟩
    cases hm
    exact ⟨n, c :: hs, rest, code, rfl, rfl, hhs.cons hd hb, hrest⟩
  next hb =>
    obtain ⟨phase, added, ht, hadds⟩ := endHex_goesOn h
    refine ⟨phase, added, ht, fun cs ds hrest => ?_⟩
    exact ⟨n, [c], cs, _, rfl, rfl, .last hd hb, hadds cs ds hrest⟩

theorem stepHex_none {bytes : Nat} {code high : Option Nat} {c : Char}
    (hnone : code = none ∨ Text.hexValue? c = none)
    (h : stepHex bytes code high text role c = .ok t) :
    GoesOn (.hex bytes code high) text role c t := by
  have hstep : stepHex bytes code high text role c =
      if bytes + c.utf8Size < 4 then .ok (.string (.hex (bytes + c.utf8Size) none high) text role)
      else .error (.ahead .invalidEscape (4 - bytes)) := by
    obtain rfl | hc := hnone
    · rfl
    · cases code <;> simp only [stepHex, hc]
  rw [hstep] at h
  split at h
  next =>
    cases h
    -- All four bytes are taken before the fault shows, but nothing can follow.
    refine ⟨.hex _ none high, [], rfl, ?_⟩
    rintro cs ds ⟨n, hs, rest, m, hn, _⟩
    cases hn
  next => cases h

theorem stepHex_goesOn {bytes : Nat} {code high : Option Nat} {c : Char}
    (h : stepHex bytes code high text role c = .ok t) :
    GoesOn (.hex bytes code high) text role c t := by
  cases code with
  | none => exact stepHex_none (.inl rfl) h
  | some n =>
    cases hd : Text.hexValue? c with
    | none => exact stepHex_none (.inr hd) h
    | some d => exact stepHex_some hd h

theorem stepString_goesOn {phase : Phase} {c : Char} (h : stepString text role phase c = .ok t) :
    GoesOn phase text role c t ∨ phase = .plain ∧ c = '"' ∧ endString text role = .ok t := by
  cases phase with
  | plain =>
    rw [stepString] at h
    split at h
    next hc => exact .inr ⟨rfl, hc, h⟩
    next hquote =>
      left
      split at h
      next hc =>
        cases h
        refine ⟨.escape, [], rfl, fun cs ds hrest => ?_⟩
        rw [hc]
        exact hrest
      next hslash =>
        split at h
        · cases h
        next hcontrol =>
          cases h
          refine ⟨.plain, [c], rfl, fun cs ds hrest => ?_⟩
          exact .plain hquote hslash (Nat.not_lt.1 hcontrol) hrest
  | escape =>
    left
    rw [stepString] at h
    split at h
    next hc =>
      cases h
      refine ⟨.hex 0 (some 0) none, [], rfl, ?_⟩
      rintro cs ds ⟨n, hs, rest, m, hn, rfl, hhs, hrest⟩
      cases hn
      rw [hc]
      exact hrest.chars hhs
    next =>
      split at h
      next d hd =>
        cases h
        exact ⟨.plain, [d], rfl, fun cs ds hrest => .short (simpleEscape?_iff.1 hd) hrest⟩
      next => cases h
  | hex bytes code high => exact .inl (stepHex_goesOn h)
  | pairBackslash high =>
    left
    rw [stepString] at h
    split at h
    next hc =>
      cases h
      refine ⟨.pairLetter high, [], rfl, ?_⟩
      rintro cs ds ⟨ls, rest, low, rfl, hls, hrest⟩
      exact ⟨ls, rest, low, by rw [hc]; rfl, hls, hrest⟩
    next => cases h
  | pairLetter high =>
    left
    rw [stepString] at h
    split at h
    next hc =>
      cases h
      refine ⟨.hex 0 (some 0) (some high), [], rfl, ?_⟩
      rintro cs ds ⟨n, hs, rest, m, hn, rfl, hhs, hrest⟩
      cases hn
      exact ⟨hs, rest, m, by rw [hc]; rfl, hhs, hrest⟩
    next => cases h

end Sound

end Json.Reader

end WorkflowManifest

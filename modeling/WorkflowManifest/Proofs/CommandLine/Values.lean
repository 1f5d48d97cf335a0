import Mathlib.Data.List.Forall2
import WorkflowManifest.CommandLine.Parser
import WorkflowManifest.Proofs.Decimal.Digits

namespace WorkflowManifest.CommandLine

/-- The same letters, each of them in either case. -/
def InAnyCase (s t : String) : Prop :=
  List.Forall₂ (fun c d => c = d ∨ c = d.toLower ∨ c = d.toUpper) s.toList t.toList

def IsDecimal (text : String) (n : Nat) : Prop :=
  ∃ d ds, text = String.ofList ((d :: ds).map Digit.char) ∧ Digit.value (d :: ds) = n

theorem InAnyCase.refl (s : String) : InAnyCase s s := by
  rw [InAnyCase, List.forall₂_same]
  exact fun c _ => .inl rfl

theorem exists_isDecimal (n : Nat) : ∃ text, IsDecimal text n := by
  by_cases hn : n = 0
  · exact ⟨_, 0, [], rfl, hn.symm⟩
  · obtain ⟨d, ds, hds, _⟩ := Digit.ofNat_ne_zero hn
    exact ⟨_, d, ds, rfl, hds ▸ Digit.value_ofNat n⟩

theorem lower_name (p : SyncPolicy) :
    ∀ d ∈ p.name.toList, d.toLower.toLower = d.toLower ∧ d.toUpper.toLower = d.toLower := by
  have h : (p.name.toList.all fun d =>
      d.toLower.toLower = d.toLower ∧ d.toUpper.toLower = d.toLower) = true := by
    cases p <;> decide
  exact fun d hd => of_decide_eq_true (List.all_eq_true.1 h d hd)

theorem map_toLower_of_anyCase {cs ds : List Char}
    (h : List.Forall₂ (fun c d => c = d ∨ c = d.toLower ∨ c = d.toUpper) cs ds)
    (hds : ∀ d ∈ ds, d.toLower.toLower = d.toLower ∧ d.toUpper.toLower = d.toLower) :
    cs.map Char.toLower = ds.map Char.toLower := by
  induction h with
  | nil => rfl
  | cons hcd _ ih =>
    obtain ⟨⟨hlower, hupper⟩, hds⟩ := List.forall_mem_cons.1 hds
    rw [List.map_cons, List.map_cons, ih hds]
    rcases hcd with rfl | rfl | rfl
    · rfl
    · rw [hlower]
    · rw [hupper]

theorem lowerText_name {text : String} {p : SyncPolicy} (h : InAnyCase text p.name) :
    lowerText text = lowerText p.name :=
  map_toLower_of_anyCase h (lower_name p)

theorem readPolicy?_of_inAnyCase {text : String} {p : SyncPolicy} (h : InAnyCase text p.name) :
    readPolicy? text = some p := by
  rw [readPolicy?, lowerText_name h]
  cases p <;> decide

theorem ne_empty_of_inAnyCase {text : String} {p : SyncPolicy} (h : InAnyCase text p.name) :
    text ≠ "" := by
  rintro rfl
  have hp := lowerText_name h
  revert hp
  cases p <;> decide

theorem readMagnitude_digits {limit : Nat} {beyond : PortNumberError} {n : Nat} {ds : List Digit}
    (h : ds.foldl (fun (n : Nat) d => 10 * n + d.val) n ≤ limit) :
    readMagnitude limit beyond n (ds.map Digit.char) =
      .ok (ds.foldl (fun (n : Nat) d => 10 * n + d.val) n) := by
  have hgrows (ds : List Digit) (n : Nat) : n ≤ ds.foldl (fun (n : Nat) d => 10 * n + d.val) n := by
    induction ds generalizing n with
    | nil => exact Nat.le_refl n
    | cons d ds ih => exact Nat.le_trans (by omega) (ih (10 * n + d.val))
  induction ds generalizing n with
  | nil => rfl
  | cons d ds ih =>
    have hle : ¬ limit < 10 * n + d.val := Nat.not_lt.2 (Nat.le_trans (hgrows ds _) h)
    simp only [List.map_cons, readMagnitude, Digit.ofChar?_char, if_neg hle]
    exact ih h

theorem readInteger_unsigned {c : Char} (hminus : c ≠ '-') (hplus : c ≠ '+') (cs : List Char) :
    readInteger (c :: cs) =
      (readMagnitude 0x7fffffffffffffff .tooLarge 0 (c :: cs)).map fun n => (n : Int) := by
  unfold readInteger
  split <;> simp_all

theorem readPortNumber_of_isDecimal {text : String} {p : UInt16} (h : IsDecimal text p.toNat) :
    readPortNumber text = .ok p := by
  obtain ⟨d, ds, rfl, hvalue⟩ := h
  have hlt : p.toNat < 65536 := p.toNat_lt
  have hsign : ∀ d : Digit, d.char ≠ '-' ∧ d.char ≠ '+' := by decide
  have hmagnitude : readMagnitude 0x7fffffffffffffff .tooLarge 0 ((d :: ds).map Digit.char) =
      .ok p.toNat := by
    rw [readMagnitude_digits, ← Digit.value, hvalue]
    rw [← Digit.value, hvalue]
    omega
  have hinteger : readInteger ((d :: ds).map Digit.char) = .ok (p.toNat : Int) := by
    rw [List.map_cons] at hmagnitude ⊢
    rw [readInteger_unsigned (hsign d).1 (hsign d).2, hmagnitude]
    rfl
  have hrange : (0 : Int) ≤ p.toNat ∧ (p.toNat : Int) ≤ 65535 := by omega
  rw [readPortNumber, String.toList_ofList, hinteger]
  simp [hrange]

end WorkflowManifest.CommandLine

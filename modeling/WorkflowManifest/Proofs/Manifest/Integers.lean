import WorkflowManifest.Proofs.Manifest.Failure
import WorkflowManifest.Proofs.Manifest.Place

namespace WorkflowManifest

open Json (Shell wrapAll numbersBefore numbersAfter)

namespace Json.Number

variable {n m : Number}

/-- The literal, zero without its sign. -/
def plain (n : Number) : String := if n.text = "-0" then "0" else n.text

theorem toList_text (n : Number) : n.text.toList = n.chars := String.toList_ofList

theorem toList_plain (h : n.isInteger = true) (plus : List Char) :
    n.plain.toList = n.unsignedZero.charsWith plus := by
  obtain ⟨negative, whole, fraction, exponent⟩ := n
  obtain ⟨rfl, rfl⟩ : fraction = [] ∧ exponent = none := by simpa [isInteger] using h
  cases whole with
  | zero => cases negative <;> rfl
  | lead first rest =>
    have hdigit : ∀ d : Fin 9, Digit.char d.succ ≠ '0' ∧ Digit.char d.succ ≠ '-' := by decide
    have hne : text ⟨negative, .lead first rest, [], none⟩ ≠ "-0" := by
      intro heq
      have hchars := (toList_text _).symm.trans (congrArg String.toList heq)
      cases negative <;> simp [chars, charsWith, Whole.digits, hdigit first] at hchars
    rw [plain, if_neg hne, toList_text]
    rfl

theorem unsignedZero_of_exact (h : n.isInteger = true) (hm : n.exact = .ok m) :
    m = n.unsignedZero := by
  cases writes_of_exact hm with
  | integer _ _ => rfl
  | double hint _ => exact absurd (hint.symm.trans h) (by decide)

def Bounded (n : Number) : Prop := -2 ^ 127 ≤ n.value ∧ n.value ≤ 2 ^ 128 - 1

theorem bounded_iff (h : n.isInteger = true) : n.Bounded ↔ ¬ n.Unwritable := by
  rw [Unwritable, if_pos h, not_or, not_lt, not_lt, Bounded]

end Json.Number

namespace Resource

/-- An integer of 128 bits is written digit for digit at any place of either text, unless another
number of the resource cannot be written. Any other integer makes both fail. -/
theorem integers_written (shells : List Shell) :
    ∃ a b c d : String, ∀ (r : Resource) (n : Json.Number), n.isInteger = true →
      Json.obj r.entries = wrapAll shells (.num n) →
        ((∃ m, n.exact = .ok m) ↔ n.Bounded) ∧
        (∀ text, r.yaml = .ok text ↔
          n.Bounded ∧ (∀ m ∈ numbersBefore shells ++ numbersAfter shells, ¬ m.Unwritable) ∧
          text = a ++ n.plain ++ b) ∧
        (∀ text, r.json = .ok text ↔
          n.Bounded ∧ (∀ m ∈ numbersBefore shells ++ numbersAfter shells, ¬ m.Unwritable) ∧
          text = c ++ n.plain ++ d) ∧
        (¬ n.Bounded → (∀ m ∈ numbersBefore shells, ¬ m.Unwritable) →
          r.yaml = .error (.integerTooLarge n.text) ∧
            r.json = .error (.integerTooLarge n.text)) := by
  obtain ⟨a, b, hyaml⟩ := yaml_around_num shells
  obtain ⟨c, d, hjson⟩ := json_around_num shells
  refine ⟨a, b, c, d, fun r n hint hn => ?_⟩
  have hdecides := decides_around hn
  have hothers : (∀ m ∈ numbersBefore shells ++ n :: numbersAfter shells, ¬ m.Unwritable) ↔
      ¬ n.Unwritable ∧ ∀ m ∈ numbersBefore shells ++ numbersAfter shells, ¬ m.Unwritable := by
    simp only [List.mem_append, List.mem_cons]
    grind
  have hwritten {m : Json.Number} (hm : n.exact = .ok m) (plus : List Char) :
      String.ofList (m.charsWith plus) = n.plain := by
    rw [Json.Number.unsignedZero_of_exact hint hm, ← Json.Number.toList_plain hint,
      String.ofList_toList]
  rw [Json.Number.bounded_iff hint]
  refine ⟨?_, fun text => ?_, fun text => ?_, fun hun hbefore => ?_⟩
  · simpa using (Json.Decides.number n).ok_iff
  · rw [← and_assoc, ← hothers]
    refine (hdecides.map Yaml.document).eq_ok_iff (fun text h => ?_) text
    obtain ⟨m, hm, rfl⟩ := hyaml r n hn text h
    rw [Yaml.numberChars, hwritten hm]
  · rw [← and_assoc, ← hothers]
    refine (hdecides.map fun es => (Json.obj es).text).eq_ok_iff (fun text h => ?_) text
    obtain ⟨m, hm, rfl⟩ := hjson r n hn text h
    rw [← hwritten hm ['+'], Json.Number.text, Json.Number.chars]
  · have hfirst : Json.FirstUnwritable (numbersBefore shells ++ n :: numbersAfter shells) n :=
      (Json.FirstUnwritable.append_iff hbefore).2 (.here (not_not.1 hun))
    have herror : r.written = .error (.integerTooLarge n.text) := by
      refine (hdecides.error_iff _).2 ⟨n, hfirst, ?_⟩
      rw [Json.Number.refusal, if_pos hint]
    rw [yaml, json, herror]
    exact ⟨rfl, rfl⟩

def lowest : Json.Number :=
  { negative := true
    whole := .ofDigits [1, 7, 0, 1, 4, 1, 1, 8, 3, 4, 6, 0, 4, 6, 9, 2, 3, 1, 7, 3, 1, 6, 8, 7, 3, 0,
      3, 7, 1, 5, 8, 8, 4, 1, 0, 5, 7, 2, 8] }

def positionShells : List Shell :=
  nodeShells ++ [.item [] [], .entry [] "position" [], .item [] [.ofNat 0]]

theorem integers_written_lowest :
    let r := holding (.arr [.obj [("position", .arr [.num lowest, .ofNat 0])]])
    lowest.isInteger = true ∧ Json.obj r.entries = wrapAll positionShells (.num lowest) ∧
      ∃ a b c d, r.yaml = .ok (a ++ "-170141183460469231731687303715884105728" ++ b) ∧
        r.json = .ok (c ++ "-170141183460469231731687303715884105728" ++ d) := by
  intro r
  have hbounded : lowest.Bounded := by
    have hvalue : lowest.wholeValue = -2 ^ 127 := by decide
    rw [Json.Number.Bounded, Json.Number.value_of_isInteger rfl, hvalue]
    norm_num
  have hothers : ∀ m ∈ numbersBefore positionShells ++ numbersAfter positionShells,
      ¬ m.Unwritable := by
    have hzero := Json.Number.not_unwritable_ofNat (k := 0) (by decide)
    intro m hm
    obtain rfl : m = { negative := false, whole := .ofDigits (Digit.ofNat 0) } := by
      simpa [numbersBefore, numbersAfter, positionShells, nodeShells, Shell.numbers, Json.itemNumbers,
        Json.entryNumbers, Json.numbers, Json.ofNat] using hm
    exact hzero
  obtain ⟨a, b, c, d, hwritten⟩ := integers_written positionShells
  obtain ⟨-, hyaml, hjson, -⟩ := hwritten r lowest rfl rfl
  exact ⟨rfl, rfl, a, b, c, d, (hyaml _).2 ⟨hbounded, hothers, rfl⟩,
    (hjson _).2 ⟨hbounded, hothers, rfl⟩⟩

end Resource

end WorkflowManifest

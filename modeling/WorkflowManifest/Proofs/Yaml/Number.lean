import WorkflowManifest.Proofs.Json.WrittenNumber
import WorkflowManifest.Yaml.Block

namespace WorkflowManifest.Yaml

open Json (Number)

theorem isDigit_char (d : Digit) : (Digit.char d).isDigit = true := by
  revert d
  decide

theorem hexValue?_char (d : Digit) : Text.hexValue? (Digit.char d) = some d.val := by
  revert d
  decide

theorem all_digits (ds : List Digit) : ∀ c ∈ ds.map Digit.char, c.isDigit = true := by
  intro c hc
  obtain ⟨d, -, rfl⟩ := List.mem_map.1 hc
  exact isDigit_char d

@[simp] theorem filterMap_digits (ds : List Digit) :
    ds.filterMap (Digit.ofChar? ∘ Digit.char) = ds := by
  induction ds with
  | nil => rfl
  | cons d ds ih => rw [List.filterMap_cons, Function.comp_apply, Digit.ofChar?_char, ih]

theorem rowValue?_digits {ds : List Digit} (h : ds ≠ []) :
    rowValue? 10 (ds.map Digit.char) = some (Digit.value ds) := by
  have hfold (n : Nat) : (ds.map Digit.char).foldl (fun n c => do
      let n ← n
      let d ← Text.hexValue? c
      if d < 10 then some (10 * n + d) else none) (some n) =
        some (ds.foldl (fun (n : Nat) d => 10 * n + d.val) n) := by
    clear h
    induction ds generalizing n with
    | nil => rfl
    | cons d ds ih => simp [hexValue?_char, d.isLt, ← ih]
  obtain ⟨d, ds, rfl⟩ := List.exists_cons_of_ne_nil h
  exact hfold 0

theorem isUnsigned_digits (limit : Nat) {ds : List Digit} (h : ds ≠ []) :
    isUnsigned limit (ds.map Digit.char) = decide (Digit.value ds ≤ limit) := by
  have hmark : ∀ d : Digit, d.char ≠ 'x' ∧ d.char ≠ 'o' ∧ d.char ≠ 'b' := by decide
  have hbase : isUnsigned limit (ds.map Digit.char) = inBase 10 limit (ds.map Digit.char) := by
    match ds with
    | [d] =>
      unfold isUnsigned
      split <;> simp_all
    | d :: e :: es =>
      obtain ⟨hx, ho, hb⟩ := hmark e
      unfold isUnsigned
      split <;> simp_all
  rw [hbase, inBase, rowValue?_digits h]

theorem digits_ne_nil (w : Json.Whole) : w.digits ≠ [] := by
  cases w <;> simp [Json.Whole.digits]

theorem isInteger_digits {ds : List Digit} (h : ds ≠ []) :
    isInteger (ds.map Digit.char) = decide (Digit.value ds ≤ maxUnsigned) := by
  have hsign : ∀ d : Digit, d.char ≠ '+' ∧ d.char ≠ '-' := by decide
  rw [← isUnsigned_digits maxUnsigned h]
  match ds with
  | d :: ds =>
    obtain ⟨hp, hm⟩ := hsign d
    unfold isInteger
    split <;> simp_all

def bodyChars (n : Number) : List Char :=
  n.whole.digits.map Digit.char ++ Number.fractionChars n.fraction ++
    Number.exponentChars [] n.exponent

theorem numberChars_eq (n : Number) :
    numberChars n = (if n.negative then ['-'] else []) ++ bodyChars n := by
  simp [numberChars, Number.charsWith, bodyChars]

theorem power?_chars (e : Json.Exponent) :
    power? ((if e.negative then ['-'] else []) ++ (e.first :: e.rest).map Digit.char) =
      some e.value := by
  have hsign : ∀ d : Digit, d.char ≠ '+' ∧ d.char ≠ '-' := by decide
  have hrow : isDigitRow ((e.first :: e.rest).map Digit.char) = true := by
    simpa [isDigitRow] using all_digits (e.first :: e.rest)
  have hvalue : ((e.first :: e.rest).map Digit.char).filterMap Digit.ofChar? =
      e.first :: e.rest := by
    rw [List.filterMap_map, filterMap_digits]
  obtain ⟨hp, hm⟩ := hsign e.first
  obtain ⟨negative, first, rest⟩ := e
  cases negative with
  | true =>
    rw [if_pos rfl, List.singleton_append]
    simp only [power?, dropSign]
    rw [hrow, if_pos rfl, hvalue]
    simp [Json.Exponent.value]
  | false =>
    have hdrop : dropSign ((first :: rest).map Digit.char) = (first :: rest).map Digit.char := by
      rw [List.map_cons]
      unfold dropSign
      split <;> simp_all
    have hhead : ((first :: rest).map Digit.char).head? ≠ some '-' := by simpa using hm
    rw [if_neg (by simp), List.nil_append]
    simp only [power?, hdrop]
    rw [hrow, if_pos rfl, hvalue, if_neg hhead]
    simp [Json.Exponent.value]

theorem takeWhile_digits (ds : List Digit) {rest : List Char}
    (h : rest.takeWhile Char.isDigit = []) :
    (ds.map Digit.char ++ rest).takeWhile Char.isDigit = ds.map Digit.char := by
  rw [List.takeWhile_append_of_pos (all_digits ds), h, List.append_nil]

theorem dropWhile_digits (ds : List Digit) {rest : List Char}
    (h : rest.dropWhile Char.isDigit = rest) :
    (ds.map Digit.char ++ rest).dropWhile Char.isDigit = rest := by
  rw [List.dropWhile_append_of_pos (all_digits ds), h]

theorem takeWhile_exponentChars (e : Option Json.Exponent) :
    (Number.exponentChars [] e).takeWhile Char.isDigit = [] := by
  cases e <;> rfl

theorem dropWhile_exponentChars (e : Option Json.Exponent) :
    (Number.exponentChars [] e).dropWhile Char.isDigit = Number.exponentChars [] e := by
  cases e <;> rfl

theorem exponentChars_some (e : Json.Exponent) :
    ∃ p, Number.exponentChars [] (some e) = 'e' :: p ∧ power? p = some e.value :=
  ⟨_, rfl, power?_chars e⟩

theorem isFiniteDecimal_whole (w : Json.Whole) (e : Option Json.Exponent) :
    isFiniteDecimal (w.digits.map Digit.char ++ Number.exponentChars [] e) =
      (Number.magnitude? { negative := false, whole := w, exponent := e }).isSome := by
  have htake := takeWhile_digits w.digits (takeWhile_exponentChars e)
  have hdrop := dropWhile_digits w.digits (dropWhile_exponentChars e)
  have hne := digits_ne_nil w
  simp only [isFiniteDecimal, htake, hdrop]
  cases e with
  | none => simp [hne, Number.exponentChars, Number.magnitude?, Number.scale]
  | some e =>
    obtain ⟨p, hp, hpower⟩ := exponentChars_some e
    simp [hp, hpower, hne, Number.magnitude?, Number.scale]

theorem isFiniteDecimal_fraction (w : Json.Whole) (ds : List Digit) (e : Option Json.Exponent) :
    isFiniteDecimal (w.digits.map Digit.char ++ '.' :: (ds.map Digit.char ++
        Number.exponentChars [] e)) =
      (Number.magnitude?
        { negative := false, whole := w, fraction := ds, exponent := e }).isSome := by
  have hpoint : ∀ cs : List Char, ('.' :: cs).takeWhile Char.isDigit = [] := fun _ => rfl
  have hpoint' : ∀ cs : List Char, ('.' :: cs).dropWhile Char.isDigit = '.' :: cs := fun _ => rfl
  have htake := takeWhile_digits ds (takeWhile_exponentChars e)
  have hdrop := dropWhile_digits ds (dropWhile_exponentChars e)
  have hne := digits_ne_nil w
  simp only [isFiniteDecimal, takeWhile_digits _ (hpoint _), dropWhile_digits _ (hpoint' _), htake,
    hdrop]
  cases e with
  | none => simp [hne, Number.exponentChars, Number.magnitude?, Number.scale]
  | some e =>
    obtain ⟨p, hp, hpower⟩ := exponentChars_some e
    simp [hp, hpower, hne, Number.magnitude?, Number.scale]

theorem isFiniteDecimal_bodyChars (n : Number) :
    isFiniteDecimal (bodyChars n) = n.magnitude?.isSome := by
  obtain ⟨negative, whole, fraction, exponent⟩ := n
  rw [bodyChars, List.append_assoc]
  cases fraction with
  | nil => exact isFiniteDecimal_whole whole exponent
  | cons d ds => exact isFiniteDecimal_fraction whole (d :: ds) exponent

theorem bodyChars_head (n : Number) : ∃ d cs, bodyChars n = Digit.char d :: cs := by
  cases h : n.whole.digits with
  | nil => exact absurd h (digits_ne_nil _)
  | cons d ds => exact ⟨d, _, by rw [bodyChars, h]; rfl⟩

theorem isFloat_numberChars {n : Number} (h : n.magnitude?.isSome = true) :
    isFloat (numberChars n) = true := by
  have hfinite : isFiniteDecimal (bodyChars n) = true := (isFiniteDecimal_bodyChars n).trans h
  have hsign : ∀ d : Digit, d.char ≠ '+' ∧ d.char ≠ '-' := by decide
  rw [numberChars_eq]
  cases n.negative with
  | true => simp [isFloat, hfinite]
  | false =>
    obtain ⟨d, cs, hcs⟩ := bodyChars_head n
    obtain ⟨hp, hm⟩ := hsign d
    rw [if_neg (by simp), List.nil_append]
    rw [hcs] at hfinite ⊢
    unfold isFloat
    split <;> simp_all

theorem isInteger_numberChars {n : Number} (h : n.isInteger = true)
    (hlow : Json.smallestInteger ≤ n.wholeValue) (hhigh : n.wholeValue ≤ Json.largestInteger) :
    isInteger (numberChars n) = true := by
  have hne := digits_ne_nil n.whole
  have hbody : bodyChars n = n.whole.digits.map Digit.char := by
    simp only [Number.isInteger, Bool.and_eq_true, List.isEmpty_iff, Option.isNone_iff_eq_none] at h
    simp [bodyChars, h.1, h.2, Number.fractionChars, Number.exponentChars]
  rw [numberChars_eq, hbody]
  simp only [Number.wholeValue, Json.smallestInteger, Json.largestInteger] at hlow hhigh
  cases hn : n.negative with
  | true =>
    rw [hn] at hlow
    have hle : Digit.value n.whole.digits ≤ maxNegated := by
      simp only [maxNegated]
      simp only [if_true] at hlow
      omega
    rw [if_pos rfl, List.singleton_append, isInteger, isUnsigned_digits _ hne]
    exact decide_eq_true hle
  | false =>
    rw [hn] at hhigh
    have hle : Digit.value n.whole.digits ≤ maxUnsigned := by
      simp only [maxUnsigned]
      simp only [Bool.false_eq_true, if_false] at hhigh
      omega
    rw [if_neg (by simp), List.nil_append, isInteger_digits hne]
    exact decide_eq_true hle

theorem looksOther_of_exact {n m : Number} (h : n.exact = .ok m) :
    looksOther (numberChars m) = true := by
  cases Number.writes_of_exact h with
  | integer hint hwithin =>
    rw [← Number.wholeValue_unsignedZero] at hwithin
    have hinteger := isInteger_numberChars ((Number.isInteger_unsignedZero n).trans hint)
      hwithin.1 hwithin.2
    simp [looksOther, hinteger]
  | double hint hx =>
    obtain ⟨hc, hs⟩ := Binary64.ofDecimal?_canonical hx
    have hfloat := isFloat_numberChars (n := Number.ofBinary64 n.negative _)
      (by rw [Number.magnitude?_ofBinary64 _ hc hs]; rfl)
    simp [looksOther, hfloat]

end WorkflowManifest.Yaml

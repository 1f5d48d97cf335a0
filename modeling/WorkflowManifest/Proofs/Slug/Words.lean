import WorkflowManifest.Proofs.Text.Lowercase
import WorkflowManifest.Slug
import Mathlib.Data.List.Basic

namespace WorkflowManifest.Slug

/-- What a character does to the words around it. -/
inductive Part where
  | kept (c : Char)
  | separator
  | dropped

/-- ASCII letters and digits are kept, in lower case. The dotted capital `I` and the kelvin sign
count as the letters that they become. -/
def part (c : Char) : Part :=
  if c.isAlpha then .kept c.toLower
  else if c.isDigit then .kept c
  else if c = '\u0130' then .kept 'i'
  else if c = '\u212a' then .kept 'k'
  else if Text.isBlank c || (0x1c ≤ c.toNat && c.toNat ≤ 0x1f) || c = '_' || c = '-' then .separator
  else .dropped

/-- What is kept between one separator and the next, be it nothing. -/
def runs : List Char → List (List Char)
  | [] => [[]]
  | c :: cs =>
    match part c with
    | .kept d => (runs cs).modifyHead (d :: ·)
    | .separator => [] :: runs cs
    | .dropped => runs cs

def words (cs : List Char) : List (List Char) := (runs cs).filter (· ≠ [])

def hyphenated (ws : List (List Char)) : String := "-".intercalate (ws.map String.ofList)

def IsLetterOrDigit (c : Char) : Prop := ('a' ≤ c ∧ c ≤ 'z') ∨ ('0' ≤ c ∧ c ≤ '9')

structure IsWord (w : List Char) : Prop where
  ne_nil : w ≠ []
  all : ∀ c ∈ w, IsLetterOrDigit c

inductive IsLabel : List Char → Prop
  | word (hw : IsWord w) : IsLabel w
  | more (hw : IsWord w) (hcs : IsLabel cs) : IsLabel (w ++ '-' :: cs)

section Characters

variable {c d : Char}

theorem isUpper_iff : c.isUpper ↔ 'A' ≤ c ∧ c ≤ 'Z' := decide_eq_true_iff

theorem isLower_iff : c.isLower ↔ 'a' ≤ c ∧ c ≤ 'z' :=
  Bool.and_eq_true_iff.trans (and_congr decide_eq_true_iff decide_eq_true_iff)

theorem isDigit_iff : c.isDigit ↔ '0' ≤ c ∧ c ≤ '9' :=
  Bool.and_eq_true_iff.trans (and_congr decide_eq_true_iff decide_eq_true_iff)

theorem isAlpha_iff : c.isAlpha ↔ c.isUpper ∨ c.isLower := Bool.or_eq_true_iff

theorem isLetterOrDigit_iff : IsLetterOrDigit c ↔ c.isLower ∨ c.isDigit :=
  (or_congr isLower_iff isDigit_iff).symm

theorem IsLetterOrDigit.ne_hyphen (h : IsLetterOrDigit c) : c ≠ '-' := by
  rintro rfl
  revert h
  unfold IsLetterOrDigit
  decide

theorem toNat_lt_of_ascii (h : c.isAlpha ∨ c.isDigit) : c.toNat < 128 := by
  simp only [isAlpha_iff, isUpper_iff, isLower_iff, isDigit_iff, Char.le_def,
    UInt32.le_iff_toNat_le, Char.toNat_val, Char.reduceToNat] at h
  omega

theorem isLower_toLower (h : c.isAlpha) : c.toLower.isLower :=
  Text.forall_ascii (P := fun c => c.isAlpha → c.toLower.isLower) (by decide)
    (toNat_lt_of_ascii (.inl h)) h

theorem isLetterOrDigit_of_kept (h : part c = .kept d) : IsLetterOrDigit d := by
  rw [isLetterOrDigit_iff]
  unfold part at h
  split at h
  next ha =>
    cases h
    exact .inl (isLower_toLower ha)
  split at h
  next hd =>
    cases h
    exact .inr hd
  split at h
  · cases h
    decide
  split at h
  · cases h
    decide
  split at h <;> cases h

def Part.symbol? : Part → Option Char
  | .kept c => some c
  | .separator => some '-'
  | .dropped => none

def symbol? (c : Char) : Option Char := (part c).symbol?

def left? (c : Char) : Option Char :=
  if isSeparator c then some '-' else if isAllowed c then some c else none

theorem not_ascii_of_le (h : 128 ≤ c.toNat) :
    ¬ (c.isAlpha ∨ c.isDigit) ∧ c ≠ '_' ∧ c ≠ '-' := by
  refine ⟨fun hc => ?_, ?_, ?_⟩
  · have := toNat_lt_of_ascii hc
    omega
  · rintro rfl
    exact absurd h (by decide)
  · rintro rfl
    exact absurd h (by decide)

theorem part_of_not_ascii (h : 128 ≤ c.toNat) (hi : c ≠ '\u0130') (hk : c ≠ '\u212a') :
    part c = if Text.isBlank c then .separator else .dropped := by
  obtain ⟨hascii, hmarks⟩ := not_ascii_of_le h
  have hcode : ¬ c.toNat ≤ 0x1f := by omega
  rw [part, if_neg (fun ha => hascii (.inl ha)), if_neg (fun hd => hascii (.inr hd)), if_neg hi,
    if_neg hk]
  simp [hmarks, hcode]

theorem left?_of_not_ascii (h : 128 ≤ c.toNat) :
    left? c = if Text.isBlank c then some '-' else none := by
  obtain ⟨hascii, hmarks⟩ := not_ascii_of_le h
  have hcode : ¬ c.toNat ≤ 0x1f := by omega
  have hallowed : isAllowed c = false := by
    simp only [isAlpha_iff, not_or] at hascii
    simp [isAllowed, hascii, hmarks]
  simp [left?, isSeparator, hallowed, hmarks, hcode]

theorem filterMap_lowerChars (c : Char) :
    (Text.lowerChars c).filterMap left? = (symbol? c).toList := by
  rcases Nat.lt_or_ge c.toNat 128 with h | h
  · exact Text.forall_ascii
      (P := fun c => (Text.lowerChars c).filterMap left? = (symbol? c).toList) (by decide +kernel) h
  by_cases hi : c = '\u0130'
  · rw [hi]
    decide +kernel
  by_cases hk : c = '\u212a'
  · rw [hk]
    decide +kernel
  obtain ⟨d, hd, hhigh, hblank⟩ := Text.lowerChars_of_not_ascii h hi hk
  rw [hd, symbol?, part_of_not_ascii h hi hk, ← hblank]
  cases hb : Text.isBlank d <;> simp [left?_of_not_ascii hhigh, hb, Part.symbol?]

theorem filterMap_lowerFrom (before cs : List Char) :
    (Text.lowerFrom before cs).filterMap left? = cs.filterMap symbol? := by
  induction cs generalizing before with
  | nil => rfl
  | cons c cs ih =>
    rw [Text.lowerFrom, List.filterMap_append, ih, List.filterMap_cons]
    split
    next h =>
      -- Neither form of a small sigma is kept.
      have hsigma : [Text.lowerSigma before cs].filterMap left? = [] := by
        rw [Text.lowerSigma]
        split <;> decide +kernel
      have hpart : symbol? '\u03a3' = none := by decide +kernel
      rw [h, hsigma, hpart, List.nil_append]
    next =>
      rw [filterMap_lowerChars]
      cases symbol? c <;> rfl

end Characters

section Pieces

variable {c : Char}

def pieces (ss : List Char) : List (List Char) := (List.splitOn '-' ss).filter (· ≠ [])

theorem splitOn_hyphen (ss : List Char) :
    List.splitOn '-' ('-' :: ss) = [] :: List.splitOn '-' ss := by
  simp [List.splitOn, List.splitOnP_cons_eq_if_modifyHead]

theorem splitOn_cons (h : c ≠ '-') (ss : List Char) :
    List.splitOn '-' (c :: ss) = (List.splitOn '-' ss).modifyHead (c :: ·) := by
  simp [List.splitOn, List.splitOnP_cons_eq_if_modifyHead, h]

theorem pieces_hyphen (ss : List Char) : pieces ('-' :: ss) = pieces ss := by
  rw [pieces, splitOn_hyphen]
  rfl

theorem pieces_single (h : c ≠ '-') : pieces [c] = [[c]] := by
  rw [pieces, splitOn_cons h]
  rfl

theorem pieces_before_hyphen (h : c ≠ '-') (ss : List Char) :
    pieces (c :: '-' :: ss) = [c] :: pieces ('-' :: ss) := by
  rw [pieces, pieces, splitOn_cons h, splitOn_hyphen]
  rfl

theorem pieces_before_other {d : Char} (h : c ≠ '-') (hd : d ≠ '-') (ss : List Char) :
    ∃ w ws, pieces (d :: ss) = (d :: w) :: ws ∧ pieces (c :: d :: ss) = (c :: d :: w) :: ws := by
  rw [pieces, pieces, splitOn_cons h, splitOn_cons hd]
  cases hs : List.splitOn '-' ss with
  | nil => exact absurd hs (List.splitOn_ne_nil _ _)
  | cons w ws => exact ⟨w, ws.filter (· ≠ []), rfl, rfl⟩

theorem pieces_append (ss ts : List Char) : pieces (ss ++ '-' :: ts) = pieces ss ++ pieces ts := by
  rw [pieces, List.splitOn, List.splitOnP_append_cons _ _ (by simp), List.filter_append]
  rfl

theorem pieces_passes (before cs : List Char) :
    pieces (before ++ (hyphenate isSeparator cs).filter isAllowed) =
      pieces (before ++ cs.filterMap left?) := by
  induction cs generalizing before with
  | nil => rfl
  | cons c cs ih =>
    by_cases hc : isSeparator c
    · have hleft : left? c = some '-' := by simp [left?, hc]
      rw [List.filterMap_cons_some hleft, pieces_append, hyphenate, if_pos hc]
      split
      next hnext =>
        -- The next hyphen stands for both.
        cases cs with
        | nil => simp at hnext
        | cons d ds =>
          have hd : left? d = some '-' := by
            have : isSeparator d := by simpa using hnext
            simp [left?, this]
          rw [ih, List.filterMap_cons_some hd, pieces_append, pieces_hyphen]
      next =>
        have hhyphen : isAllowed '-' = true := by decide
        have hcs := ih []
        rw [List.nil_append, List.nil_append] at hcs
        rw [List.filter_cons_of_pos hhyphen, pieces_append, hcs]
    · rw [hyphenate, if_neg hc]
      by_cases ha : isAllowed c
      · have hleft : left? c = some c := by simp [left?, hc, ha]
        have hcs := ih (before ++ [c])
        rw [List.append_assoc, List.append_assoc] at hcs
        rw [List.filter_cons_of_pos ha, List.filterMap_cons_some hleft]
        exact hcs
      · have hleft : left? c = none := by simp [left?, hc, ha]
        rw [List.filter_cons_of_neg ha, List.filterMap_cons_none hleft, ih]

theorem runs_eq_splitOn (cs : List Char) : runs cs = List.splitOn '-' (cs.filterMap symbol?) := by
  induction cs with
  | nil => rfl
  | cons c cs ih =>
    rw [runs, List.filterMap_cons, symbol?]
    cases h : part c with
    | kept d =>
      have hd := (isLetterOrDigit_of_kept h).ne_hyphen
      simp only [Part.symbol?, splitOn_cons hd, ih]
    | separator => simp only [Part.symbol?, splitOn_hyphen, ih]
    | dropped => simp only [Part.symbol?, ih]

theorem runs_all (cs : List Char) : ∀ w ∈ runs cs, ∀ c ∈ w, IsLetterOrDigit c := by
  induction cs with
  | nil => simp [runs]
  | cons c cs ih =>
    rw [runs]
    cases h : part c with
    | kept d =>
      have hd := isLetterOrDigit_of_kept h
      cases hr : runs cs with
      | nil => simp
      | cons w ws =>
        rw [hr, List.forall_mem_cons] at ih
        simpa [hd] using ih
    | separator => simpa using ih
    | dropped => exact ih

end Pieces

section Labels

variable {cs : List Char} {ws : List (List Char)}

theorem IsLabel.head_ne (h : IsLabel cs) : cs.head? ≠ some '-' := by
  have hword {w : List Char} (hw : IsWord w) (rest : List Char) :
      (w ++ rest).head? ≠ some '-' := by
    cases w with
    | nil => exact absurd rfl hw.ne_nil
    | cons c w =>
      have hc := (hw.all c (by simp)).ne_hyphen
      simpa using hc
  cases h with
  | word hw => simpa using hword hw []
  | more hw _ => exact hword hw _

theorem IsLabel.ne_nil (h : IsLabel cs) : cs ≠ [] := by
  cases h with
  | word hw => exact hw.ne_nil
  | more _ _ => simp

theorem IsLabel.last_ne (h : IsLabel cs) : cs.getLast? ≠ some '-' := by
  induction h with
  | word hw =>
    intro hlast
    exact (hw.all _ (List.mem_of_getLast? hlast)).ne_hyphen rfl
  | @more w cs hw hcs ih =>
    have hlast : (w ++ '-' :: cs).getLast? = cs.getLast? := by
      cases cs with
      | nil => exact absurd rfl hcs.ne_nil
      | cons c cs => simp [List.getLast?_append, List.getLast?_cons]
    rw [hlast]
    exact ih

theorem isLabel_intercalate (hne : ws ≠ []) (h : ∀ w ∈ ws, IsWord w) :
    IsLabel (['-'].intercalate ws) := by
  induction ws with
  | nil => exact absurd rfl hne
  | cons w ws ih =>
    obtain ⟨hw, hws⟩ := List.forall_mem_cons.1 h
    cases ws with
    | nil =>
      rw [List.intercalate_singleton]
      exact .word hw
    | cons v ws =>
      have hmore := IsLabel.more hw (ih (by simp) hws)
      simpa using hmore

end Labels

section Passes

def lead (ss : List Char) : List Char := if ss.head? = some '-' then ['-'] else []

theorem hyphenate_eq (ss : List Char) :
    ∃ tail, (∀ c ∈ tail, c = '-') ∧
      hyphenate (· = '-') ss = lead ss ++ (['-'].intercalate (pieces ss) ++ tail) := by
  induction ss with
  | nil => exact ⟨[], by simp, rfl⟩
  | cons c ss ih =>
    obtain ⟨tail, htail, hss⟩ := ih
    by_cases hc : c = '-'
    · subst hc
      refine ⟨tail, htail, ?_⟩
      rw [pieces_hyphen, hyphenate, hss]
      unfold lead
      cases ss with
      | nil => rfl
      | cons d ss => by_cases hd : d = '-' <;> simp [hd]
    · rw [hyphenate, if_neg (by simpa using hc), hss]
      cases ss with
      | nil =>
        have hnil : pieces [] = [] := rfl
        refine ⟨tail, htail, ?_⟩
        simp [pieces_single hc, lead, hc, hnil]
      | cons d ss =>
        by_cases hd : d = '-'
        · subst hd
          rw [pieces_before_hyphen hc]
          cases pieces ('-' :: ss) with
          | nil =>
            -- The hyphen in front of nothing is now one at the end.
            refine ⟨'-' :: tail, by simpa using htail, ?_⟩
            simp [lead, hc]
          | cons w ws =>
            refine ⟨tail, htail, ?_⟩
            simp [lead, hc]
        · obtain ⟨w, ws, hw, hcw⟩ := pieces_before_other hc hd ss
          refine ⟨tail, htail, ?_⟩
          rw [hw, hcw]
          cases ws <;> simp [lead, hc, hd]

theorem trimStart_append {before cs : List Char} (hbefore : ∀ c ∈ before, c = '-')
    (hcs : cs.head? ≠ some '-') : trimStart (before ++ cs) = cs := by
  rw [trimStart, List.dropWhile_append_of_pos (by simpa using hbefore)]
  cases cs with
  | nil => rfl
  | cons c cs =>
    have hc : c ≠ '-' := by simpa using hcs
    simp [hc]

theorem trim_label {before cs after : List Char} (hbefore : ∀ c ∈ before, c = '-')
    (hafter : ∀ c ∈ after, c = '-') (hcs : IsLabel cs) : trim (before ++ (cs ++ after)) = cs := by
  have hhead : (cs ++ after).head? ≠ some '-' := by
    have hsome := List.head?_eq_some_head hcs.ne_nil
    rw [List.head?_append, hsome, Option.some_or, ← hsome]
    exact hcs.head_ne
  have hlast : cs.reverse.head? ≠ some '-' := by
    rw [List.head?_reverse]
    exact hcs.last_ne
  have hafter : ∀ c ∈ after.reverse, c = '-' := by simpa using hafter
  rw [trim, trimStart_append hbefore hhead, List.reverse_append, trimStart_append hafter hlast,
    List.reverse_reverse]

theorem trim_hyphens {cs : List Char} (h : ∀ c ∈ cs, c = '-') : trim cs = [] := by
  have hnil : trimStart cs = [] := by
    rw [← List.append_nil cs]
    exact trimStart_append h (by simp)
  rw [trim, hnil]
  rfl

theorem lead_hyphens (ss : List Char) : ∀ c ∈ lead ss, c = '-' := by
  unfold lead
  split <;> simp

end Passes

theorem words_eq_pieces (cs : List Char) : words cs = pieces (cs.filterMap symbol?) := by
  rw [words, runs_eq_splitOn, pieces]

theorem isWord_of_mem_words {cs w : List Char} (h : w ∈ words cs) : IsWord w := by
  obtain ⟨hruns, hne⟩ := List.mem_filter.1 h
  exact ⟨by simpa using hne, runs_all cs w hruns⟩

theorem pieces_normalize (cs : List Char) :
    pieces ((hyphenate isSeparator (Text.lowercase cs)).filter isAllowed) = words cs := by
  have hpasses := pieces_passes [] (Text.lowercase cs)
  rw [List.nil_append, List.nil_append] at hpasses
  rw [hpasses, Text.lowercase, filterMap_lowerFrom, words_eq_pieces]

theorem normalizeChars_eq (cs : List Char) : normalizeChars cs = ['-'].intercalate (words cs) := by
  obtain ⟨tail, htail, hcollapse⟩ :=
    hyphenate_eq ((hyphenate isSeparator (Text.lowercase cs)).filter isAllowed)
  rw [pieces_normalize] at hcollapse
  simp only [normalizeChars]
  rw [hcollapse]
  by_cases hne : words cs = []
  · rw [hne, List.intercalate_nil, List.nil_append]
    exact trim_hyphens (List.forall_mem_append.2 ⟨lead_hyphens _, htail⟩)
  · exact trim_label (lead_hyphens _) htail (isLabel_intercalate hne fun w => isWord_of_mem_words)

theorem toList_hyphenated (ws : List (List Char)) :
    (hyphenated ws).toList = ['-'].intercalate ws := by
  have hhyphen : "-".toList = ['-'] := rfl
  simp [hyphenated, hhyphen, Function.comp_def]

/-- A name is normalized to its words with hyphens between them. -/
theorem normalize_eq_hyphenated (name : String) :
    normalize name = hyphenated (words name.toList) := by
  rw [← String.toList_inj, toList_hyphenated, ← normalizeChars_eq]
  exact String.toList_ofList

end WorkflowManifest.Slug

import WorkflowManifest.Proofs.Slug.Words
import Mathlib.Data.List.Chain

namespace WorkflowManifest.Slug

/-- Names that normalizing leaves as they are: nothing, or a label. -/
def IsSlug (cs : List Char) : Prop := cs = [] ∨ IsLabel cs

section Labels

variable {cs p : List Char}

theorem IsLabel.exists_words (h : IsLabel cs) :
    ∃ ws, ws ≠ [] ∧ (∀ w ∈ ws, IsWord w) ∧ cs = ['-'].intercalate ws := by
  induction h with
  | @word w hw => exact ⟨[w], by simp, by simpa using hw, by simp⟩
  | @more w _ hw _ ih =>
    obtain ⟨ws, hne, hws, rfl⟩ := ih
    refine ⟨w :: ws, by simp, by simpa [hw] using hws, ?_⟩
    simp [List.intercalate_cons_of_ne_nil hne]

theorem IsLabel.all (h : IsLabel cs) : ∀ c ∈ cs, IsLetterOrDigit c ∨ c = '-' := by
  induction h with
  | word hw => exact fun c hc => .inl (hw.all c hc)
  | more hw _ ih =>
    intro c hc
    rcases List.mem_append.1 hc with hc | hc
    · exact .inl (hw.all c hc)
    rcases List.mem_cons.1 hc with hc | hc
    · exact .inr hc
    · exact ih c hc

theorem IsLabel.chain (h : IsLabel cs) : cs.IsChain fun c d => c ≠ '-' ∨ d ≠ '-' := by
  have hword {w : List Char} (hw : IsWord w) : w.IsChain fun c d => c ≠ '-' ∨ d ≠ '-' := by
    apply List.Pairwise.isChain
    apply List.pairwise_of_forall_mem_list
    intro c hc d _
    exact .inl (hw.all c hc).ne_hyphen
  induction h with
  | word hw => exact hword hw
  | @more w cs hw hcs ih =>
    rw [List.isChain_append]
    refine ⟨hword hw, ?_, ?_⟩
    · rw [List.isChain_cons]
      refine ⟨?_, ih⟩
      rintro d hd
      right
      rintro rfl
      exact hcs.head_ne hd
    · intro c hc d _
      exact .inl (hw.all c (List.mem_of_getLast? hc)).ne_hyphen

theorem IsLabel.single_hyphens (h : IsLabel cs) : ¬['-', '-'] <:+: cs := by
  intro hinfix
  have hpair := h.chain.infix hinfix
  simp at hpair

theorem IsLabel.cut (h : IsLabel cs) (hp : p <+: cs) :
    IsSlug p ∨ ∃ q, IsLabel q ∧ p = q ++ ['-'] := by
  induction h generalizing p with
  | @word w hw =>
    left
    by_cases hne : p = []
    · exact .inl hne
    · exact .inr (.word ⟨hne, fun c hc => hw.all c (hp.subset hc)⟩)
  | @more w cs hw hcs ih =>
    have hw' : w <+: w ++ '-' :: cs := List.prefix_append w ('-' :: cs)
    rcases List.prefix_or_prefix_of_prefix hp hw' with hshort | ⟨r, rfl⟩
    · left
      by_cases hne : p = []
      · exact .inl hne
      · exact .inr (.word ⟨hne, fun c hc => hw.all c (hshort.subset hc)⟩)
    · rw [List.prefix_append_right_inj] at hp
      rcases List.prefix_cons_iff.1 hp with rfl | ⟨t, rfl, ht⟩
      · rw [List.append_nil]
        exact .inl (.inr (.word hw))
      · rcases ih ht with (rfl | ht) | ⟨q, hq, rfl⟩
        · exact .inr ⟨w, .word hw, rfl⟩
        · exact .inl (.inr (.more hw ht))
        · exact .inr ⟨w ++ '-' :: q, .more hw hq, by simp⟩

end Labels

section Fixed

variable {cs : List Char}

theorem symbol?_of_isLetterOrDigit {c : Char} (h : IsLetterOrDigit c) : symbol? c = some c := by
  have hkept := isLetterOrDigit_iff.1 h
  have hascii : c.toNat < 128 :=
    toNat_lt_of_ascii (hkept.imp (fun hl => isAlpha_iff.2 (.inr hl)) id)
  exact Text.forall_ascii (P := fun c => c.isLower ∨ c.isDigit → symbol? c = some c)
    (by decide +kernel) hascii hkept

theorem filterMap_symbol? (h : ∀ c ∈ cs, IsLetterOrDigit c ∨ c = '-') :
    cs.filterMap symbol? = cs := by
  induction cs with
  | nil => rfl
  | cons c cs ih =>
    obtain ⟨hc, hcs⟩ := List.forall_mem_cons.1 h
    have hsymbol : symbol? c = some c := by
      rcases hc with hc | rfl
      · exact symbol?_of_isLetterOrDigit hc
      · rfl
    rw [List.filterMap_cons, hsymbol, ih hcs]

theorem pieces_intercalate {ws : List (List Char)} (hne : ws ≠ []) (h : ∀ w ∈ ws, IsWord w) :
    pieces (['-'].intercalate ws) = ws := by
  have hfree : ∀ w ∈ ws, '-' ∉ w := fun w hw hmem => ((h w hw).all _ hmem).ne_hyphen rfl
  rw [pieces, List.splitOn_intercalate '-' hfree hne, List.filter_eq_self]
  intro w hw
  simpa using (h w hw).ne_nil

theorem pieces_append_hyphen (ss : List Char) : pieces (ss ++ ['-']) = pieces ss := by
  rw [pieces, List.splitOn, List.splitOnP_append_cons _ _ (by simp)]
  simp [pieces, List.splitOn]

theorem pieces_label (h : IsLabel cs) : ['-'].intercalate (pieces cs) = cs := by
  obtain ⟨ws, hne, hws, rfl⟩ := h.exists_words
  rw [pieces_intercalate hne hws]

end Fixed

section Normalized

variable {cs : List Char}

theorem isSlug_normalizeChars (cs : List Char) : IsSlug (normalizeChars cs) := by
  rw [normalizeChars_eq]
  by_cases hne : words cs = []
  · exact .inl (by rw [hne, List.intercalate_nil])
  · exact .inr (isLabel_intercalate hne fun w => isWord_of_mem_words)

theorem normalizeChars_of_isSlug (h : IsSlug cs) : normalizeChars cs = cs := by
  rcases h with rfl | h
  · rfl
  · rw [normalizeChars_eq, words_eq_pieces, filterMap_symbol? h.all, pieces_label h]

theorem normalizeChars_append_hyphen (h : IsLabel cs) : normalizeChars (cs ++ ['-']) = cs := by
  have hall : ∀ c ∈ cs ++ ['-'], IsLetterOrDigit c ∨ c = '-' := by
    intro c hc
    rcases List.mem_append.1 hc with hc | hc
    · exact h.all c hc
    · exact .inr (List.mem_singleton.1 hc)
  rw [normalizeChars_eq, words_eq_pieces, filterMap_symbol? hall, pieces_append_hyphen,
    pieces_label h]

end Normalized

section Cut

theorem toList_normalize (name : String) :
    (normalize name).toList = normalizeChars name.toList :=
  String.toList_ofList

theorem toList_slugify (name : String) :
    (slugify name).toList = (normalize name).toList.take 63 :=
  String.toList_ofList

theorem normalize_of_isSlug {name : String} (h : IsSlug name.toList) : normalize name = name := by
  rw [← String.toList_inj, toList_normalize, normalizeChars_of_isSlug h]

theorem isSlug_normalize (name : String) : IsSlug (normalize name).toList := by
  rw [toList_normalize]
  exact isSlug_normalizeChars _

theorem slugify_of_isSlug {name : String} (h : IsSlug name.toList)
    (hlength : name.toList.length ≤ 63) : slugify name = name := by
  rw [← String.toList_inj, toList_slugify, normalize_of_isSlug h, List.take_of_length_le hlength]

theorem slugify_cases (name : String) :
    IsSlug (slugify name).toList ∨ ∃ q, IsLabel q ∧ (slugify name).toList = q ++ ['-'] := by
  rw [toList_slugify]
  rcases isSlug_normalize name with hnil | hlabel
  · left
    left
    rw [hnil, List.take_nil]
  · exact hlabel.cut (List.take_prefix 63 _)

theorem length_slugify (name : String) : (slugify name).toList.length ≤ 63 := by
  rw [toList_slugify]
  exact List.length_take_le 63 _

theorem IsSlug.last_ne {cs : List Char} (h : IsSlug cs) : cs.getLast? ≠ some '-' := by
  rcases h with rfl | h
  · simp
  · exact h.last_ne

theorem IsSlug.head_ne {cs : List Char} (h : IsSlug cs) : cs.head? ≠ some '-' := by
  rcases h with rfl | h
  · simp
  · exact h.head_ne

theorem IsSlug.all {cs : List Char} (h : IsSlug cs) : ∀ c ∈ cs, IsLetterOrDigit c ∨ c = '-' := by
  rcases h with rfl | h
  · simp
  · exact h.all

theorem IsSlug.single_hyphens {cs : List Char} (h : IsSlug cs) : ¬['-', '-'] <:+: cs := by
  rcases h with rfl | h
  · simp
  · exact h.single_hyphens

theorem slugify_again (name : String) :
    (slugify (slugify name)).toList =
      if (slugify name).toList.getLast? = some '-' then (slugify name).toList.dropLast
      else (slugify name).toList := by
  rcases slugify_cases name with h | ⟨q, hq, hlist⟩
  · rw [if_neg h.last_ne, slugify_of_isSlug h (length_slugify name)]
  · have hlength := length_slugify name
    rw [hlist, List.length_append, List.length_singleton] at hlength
    rw [hlist, if_pos List.getLast?_concat, List.dropLast_concat, toList_slugify, toList_normalize,
      hlist, normalizeChars_append_hyphen hq]
    apply List.take_of_length_le
    omega

theorem isSlug_slugify_slugify (name : String) : IsSlug (slugify (slugify name)).toList := by
  rw [slugify_again]
  rcases slugify_cases name with h | ⟨q, hq, hlist⟩
  · rw [if_neg h.last_ne]
    exact h
  · rw [hlist, if_pos List.getLast?_concat, List.dropLast_concat]
    exact .inr hq

theorem getLast?_slugify (name : String) :
    (slugify name).toList.getLast? = some '-' ↔
      63 < (normalize name).length ∧ (normalize name).toList[62]? = some '-' := by
  have hcut : (slugify name).toList.getLast? =
      (normalize name).toList[62]?.or (normalize name).toList.getLast? := by
    rw [toList_slugify, List.getLast?_take, if_neg (by decide)]
  have hlast := (isSlug_normalize name).last_ne
  rw [hcut, ← String.length_toList]
  generalize (normalize name).toList = cs at hlast
  constructor
  · intro h
    cases hc : cs[62]? with
    | none =>
      rw [hc, Option.none_or] at h
      exact absurd h hlast
    | some c =>
      rw [hc, Option.some_or] at h
      have hlt : 62 < cs.length := (List.getElem?_eq_some_iff.1 hc).1
      have hne : cs.length ≠ 63 := by
        intro hlength
        rw [List.getLast?_eq_getElem?, hlength, hc] at hlast
        exact hlast h
      exact ⟨by omega, h⟩
  · rintro ⟨-, h⟩
    rw [h, Option.some_or]

/-- Normalizing gives a slug and keeps the slugs, so that it need not be repeated. The resource name
is what fits of it; a hyphen at its end is one that the cut has left, and the next round takes it
away and changes nothing else. -/
theorem slug_laws (name : String) :
    IsSlug (normalize name).toList ∧
      (normalize name = name ↔ IsSlug name.toList) ∧
      normalize (normalize name) = normalize name ∧
      (slugify name).toList = (normalize name).toList.take 63 ∧
      (∀ c ∈ (slugify name).toList, IsLetterOrDigit c ∨ c = '-') ∧
      (slugify name).toList.head? ≠ some '-' ∧
      ¬['-', '-'] <:+: (slugify name).toList ∧
      ((slugify name).toList.getLast? = some '-' ↔
        63 < (normalize name).length ∧ (normalize name).toList[62]? = some '-') ∧
      (slugify (slugify name)).toList =
        (if (slugify name).toList.getLast? = some '-' then (slugify name).toList.dropLast
        else (slugify name).toList) ∧
      (slugify (slugify name) = slugify name ↔ (slugify name).toList.getLast? ≠ some '-') ∧
      slugify (slugify (slugify name)) = slugify (slugify name) := by
  have hslug := isSlug_normalize name
  have hagain := isSlug_slugify_slugify name
  have hfront : (slugify name).toList <+: (normalize name).toList := by
    rw [toList_slugify]
    exact List.take_prefix 63 _
  refine ⟨hslug, ⟨fun h => h ▸ hslug, normalize_of_isSlug⟩, normalize_of_isSlug hslug,
    toList_slugify name, ?_, ?_, ?_, getLast?_slugify name, slugify_again name, ⟨?_, ?_⟩,
    slugify_of_isSlug hagain (length_slugify _)⟩
  · intro c hc
    exact hslug.all c (hfront.subset hc)
  · rw [toList_slugify, List.head?_take, if_neg (by decide)]
    exact hslug.head_ne
  · intro hdouble
    exact hslug.single_hyphens (hdouble.trans hfront.isInfix)
  · intro h
    rw [← h]
    exact hagain.last_ne
  · intro h
    rw [← String.toList_inj, slugify_again, if_neg h]

example : (slugify (String.ofList (List.replicate 62 'b' ++ [' ', 'c']))).toList.getLast? =
    some '-' := by
  decide +kernel

end Cut

end WorkflowManifest.Slug

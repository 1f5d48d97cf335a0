import WorkflowManifest.Convert
import WorkflowManifest.Manifest
import WorkflowManifest.Proofs.Json.Exact
import WorkflowManifest.Proofs.Yaml.Indentation
import Mathlib.Data.List.Forall2

/-!
No content gets out of its place in a manifest: the lines of a resource that are not set in are
its four sections, and the separator lines of a manifest are those between its resources.
-/

namespace WorkflowManifest.Manifest

open Text Yaml

def sectionKeys : List (List Char) :=
  ["apiVersion:", "kind:", "metadata:", "spec:"].map String.toList

def isTop (l : List Char) : Bool := !(content l).isEmpty && !(spaces 2).isPrefixOf l

/-- Every line is blank, set in by two or the start of a section, each section starts once, in
order, and the last line is ended. -/
structure Framed (cs : List Char) : Prop where
  placed : ∀ l ∈ lines cs, content l = [] ∨ spaces 2 <+: l ∨ ∃ key ∈ sectionKeys, key <+: l
  sections : List.Forall₂ (· <+: ·) sectionKeys ((lines cs).filter isTop)
  whole : Whole cs

def isSeparator (l : List Char) : Bool := content l = ['-', '-', '-']

theorem content_cons {c : Char} (h : isLineBreak c = false) (cs : List Char) :
    content (c :: cs) = c :: content cs := by
  simp [content, h]

theorem sectionKeys_start {key : List Char} (h : key ∈ sectionKeys) :
    ∃ c cs, key = c :: cs ∧ isLineBreak c = false ∧ c ≠ ' ' ∧ c ≠ '-' := by
  simp only [sectionKeys, List.map_cons, List.map_nil, List.mem_cons, List.not_mem_nil,
    or_false] at h
  rcases h with rfl | rfl | rfl | rfl
  all_goals exact ⟨_, _, rfl, by decide⟩

theorem sectionKeys_no_break {key : List Char} (h : key ∈ sectionKeys) :
    ∀ c ∈ key, isLineBreak c = false := by
  have hall : ∀ key ∈ sectionKeys, ∀ c ∈ key, isLineBreak c = false := by
    simp [sectionKeys, isLineBreak]
  exact hall key h

theorem isTop_of_deep {l : List Char} (h : Deep 2 l) : isTop l = false := by
  rcases h with h | h
  · simp [isTop, h]
  · simp [isTop, List.isPrefixOf_iff_prefix.2 h]

theorem isTop_of_key {key l : List Char} (hkey : key ∈ sectionKeys) (h : key <+: l) :
    isTop l = true := by
  obtain ⟨c, cs, rfl, hb, hs, -⟩ := sectionKeys_start hkey
  obtain ⟨rest, rfl⟩ := h
  have hspaces : (spaces 2).isPrefixOf (c :: (cs ++ rest)) = false := by
    simp [spaces, List.replicate_succ, List.isPrefixOf, Ne.symm hs]
  simp [isTop, content_cons hb, hspaces]

theorem not_separator_of_deep {l : List Char} (h : Deep 2 l) : isSeparator l = false := by
  rcases h with h | ⟨rest, rfl⟩
  · simp [isSeparator, h]
  · have hb : isLineBreak ' ' = false := rfl
    simp [isSeparator, spaces, List.replicate_succ, content_cons hb]

theorem not_separator_of_key {key l : List Char} (hkey : key ∈ sectionKeys) (h : key <+: l) :
    isSeparator l = false := by
  obtain ⟨c, cs, rfl, hb, -, hd⟩ := sectionKeys_start hkey
  obtain ⟨rest, rfl⟩ := h
  simp [isSeparator, content_cons hb, hd]

theorem lines_section {key body : List Char} (hkey : key ∈ sectionKeys) (h : Nested 2 body) :
    ∃ l ls, lines (key ++ body) = l :: ls ∧ key <+: l ∧ ∀ m ∈ ls, Deep 2 m :=
  ⟨_, _, lines_append_of_no_break (sectionKeys_no_break hkey) h.whole.ne_nil,
    List.prefix_append _ _, h.hanging⟩

def joined (parts : List (List Char × List Char)) : List Char := parts.flatMap fun p => p.1 ++ p.2

theorem lines_joined {parts : List (List Char × List Char)}
    (h : ∀ p ∈ parts, p.1 ∈ sectionKeys ∧ Nested 2 p.2) :
    (∀ l ∈ lines (joined parts), Deep 2 l ∨ ∃ key ∈ sectionKeys, key <+: l) ∧
      List.Forall₂ (· <+: ·) (parts.map Prod.fst) ((lines (joined parts)).filter isTop) := by
  induction parts with
  | nil => simp [joined, lines]
  | cons p parts ih =>
    obtain ⟨hkey, hbody⟩ := h p (by simp)
    obtain ⟨ihplaced, ihtop⟩ := ih fun q hq => h q (by simp [hq])
    obtain ⟨l, ls, hlines, hl, hls⟩ := lines_section hkey hbody
    have hall : lines (joined (p :: parts)) = l :: ls ++ lines (joined parts) := by
      rw [joined, List.flatMap_cons, lines_append (hbody.whole.append _), hlines]
      rfl
    have hdeep : ls.filter isTop = [] := by
      simpa using fun m hm => isTop_of_deep (hls m hm)
    constructor
    · intro m hm
      rw [hall, List.mem_append, List.mem_cons] at hm
      rcases hm with (rfl | hm) | hm
      · exact Or.inr ⟨_, hkey, hl⟩
      · exact Or.inl (hls m hm)
      · exact ihplaced m hm
    · rw [hall, List.filter_append, List.filter_cons_of_pos (isTop_of_key hkey hl), hdeep]
      exact .cons hl ihtop

theorem whole_joined {parts : List (List Char × List Char)} (hne : parts ≠ [])
    (h : ∀ p ∈ parts, Nested 2 p.2) : Whole (joined parts) := by
  obtain ⟨start, p, rfl⟩ := parts.eq_nil_or_concat'.resolve_left hne
  rw [joined, List.flatMap_append, List.flatMap_singleton]
  exact ((h p (by simp)).whole.append _).append _

theorem entryChars_section {k : String} (hk : isSimpleKey k = true)
    (hs : scalarChars step k.toList = k.toList) (x : Json) :
    entryChars 0 [(k, x)] = k.toList ++ [':'] ++ underKey 0 x := by
  rw [entryChars_simple hk, Nat.zero_add, hs]
  simp

theorem nested_under_top_str (s : String) : Nested 2 (underKey 0 (.str s)) := by
  rw [underKey]
  exact .cons rfl (nested_scalarLines (by decide) s)

theorem nested_under_top_obj (e : String × Json) (es : List (String × Json)) :
    Nested 2 (underKey 0 (.obj (e :: es))) := by
  rw [underKey]
  exact .below (by decide) (nested_entryChars (by decide) (e :: es) (by simp))

theorem yaml_eq_joined {r : Resource} {text : String} (h : r.yaml = .ok text) :
    ∃ parts, text.toList = joined parts ∧ parts.map Prod.fst = sectionKeys ∧
      ∀ p ∈ parts, p.1 ∈ sectionKeys ∧ Nested 2 p.2 := by
  obtain ⟨es, hes, rfl⟩ : ∃ es, r.written = .ok es ∧ text = Yaml.document es := by
    unfold Resource.yaml at h
    cases hw : r.written <;> simp_all [Except.map]
  obtain ⟨spec, rfl⟩ := Resource.written_ok hes
  refine ⟨[("apiVersion:".toList, underKey 0 (.str apiVersion)),
    ("kind:".toList, underKey 0 (.str resourceKind)),
    ("metadata:".toList,
      underKey 0 (.obj [("name", .str r.name), ("namespace", .str r.inNamespace)])),
    ("spec:".toList, underKey 0 (.obj (("active", .bool r.active) :: spec)))], ?_, rfl, ?_⟩
  · simp only [Yaml.document, String.toList_ofList, entryChars_cons_cons, spaces,
      List.replicate_zero, List.nil_append, joined, List.flatMap_cons, List.flatMap_nil,
      List.append_nil]
    rw [entryChars_section (by decide) (by decide), entryChars_section (by decide) (by decide),
      entryChars_section (by decide) (by decide), entryChars_section (by decide) (by decide)]
    rfl
  · intro p hp
    simp only [List.mem_cons, List.not_mem_nil, or_false] at hp
    rcases hp with rfl | rfl | rfl | rfl
    · exact ⟨by simp [sectionKeys], nested_under_top_str _⟩
    · exact ⟨by simp [sectionKeys], nested_under_top_str _⟩
    · exact ⟨by simp [sectionKeys], nested_under_top_obj _ _⟩
    · exact ⟨by simp [sectionKeys], nested_under_top_obj _ _⟩

theorem yaml_framed {r : Resource} {text : String} (h : r.yaml = .ok text) :
    Framed text.toList := by
  obtain ⟨parts, htext, hkeys, hparts⟩ := yaml_eq_joined h
  obtain ⟨hplaced, htop⟩ := lines_joined hparts
  have hne : parts ≠ [] := by
    rintro rfl
    exact absurd hkeys (by decide)
  rw [htext]
  refine ⟨fun l hl => ?_, hkeys ▸ htop, whole_joined hne fun p hp => (hparts p hp).2⟩
  rcases hplaced l hl with (h | h) | h
  · exact Or.inl h
  · exact Or.inr (Or.inl h)
  · exact Or.inr (Or.inr h)

theorem Framed.not_separator {cs : List Char} (h : Framed cs) :
    ∀ l ∈ lines cs, isSeparator l = false := by
  intro l hl
  rcases h.placed l hl with h | h | ⟨key, hkey, h⟩
  · exact not_separator_of_deep (Or.inl h)
  · exact not_separator_of_deep (Or.inr h)
  · exact not_separator_of_key hkey h

theorem render_cons_ok {r : Resource} {rs : List Resource} {manifest : String} :
    render (r :: rs) = .ok manifest ↔ ∃ text rest, r.yaml = .ok text ∧ render rs = .ok rest ∧
      manifest = separator ++ text ++ rest := by
  cases ht : r.yaml <;> cases hr : render rs <;> simp [render, ht, hr, Except.map, eq_comm]

theorem whole_separator : Whole separator.toList := ⟨'\n', rfl, rfl⟩

theorem lines_render {text rest : String} (h : Whole text.toList) :
    lines (separator ++ text ++ rest).toList =
      separator.toList :: (lines text.toList ++ lines rest.toList) := by
  rw [String.toList_append, String.toList_append, List.append_assoc, lines_append whole_separator,
    lines_append h]
  rfl

theorem splitOnP_append_of_none {α : Type} {p : α → Bool} {xs : List α}
    (h : ∀ x ∈ xs, p x = false) (ys : List α) :
    (xs ++ ys).splitOnP p = (ys.splitOnP p).modifyHead (xs ++ ·) := by
  induction xs with
  | nil => cases hs : ys.splitOnP p <;> simp_all
  | cons x xs ih =>
    rw [List.cons_append, List.splitOnP_cons_eq_if_modifyHead, ih fun y hy => h y (by simp [hy])]
    cases hs : ys.splitOnP p <;> simp [h x]

theorem cut_lines_render {text rest : String} (h : Framed text.toList) {pieces : List (List Char)}
    (hrest : ((lines rest.toList).splitOnP isSeparator).map List.flatten = [] :: pieces) :
    ((lines (separator ++ text ++ rest).toList).splitOnP isSeparator).map List.flatten =
      [] :: text.toList :: pieces := by
  have hsep : isSeparator separator.toList = true := by decide
  rw [lines_render h.whole, List.splitOnP_cons_eq_if_modifyHead, hsep, if_pos rfl,
    splitOnP_append_of_none h.not_separator]
  cases hs : (lines rest.toList).splitOnP isSeparator with
  | nil => simp [hs] at hrest
  | cons piece rest =>
    rw [hs, List.map_cons, List.cons.injEq] at hrest
    simp [hrest]

/-- The separator lines of a manifest are one for each resource, and cutting the manifest at them
gives back the texts of the resources. -/
theorem render_framed {rs : List Resource} {manifest : String} (h : render rs = .ok manifest) :
    ∃ texts : List String, List.Forall₂ (fun r text => r.yaml = .ok text) rs texts ∧
      (∀ text ∈ texts, Framed text.toList) ∧
      (lines manifest.toList).countP isSeparator = rs.length ∧
      ((lines manifest.toList).splitOnP isSeparator).map List.flatten =
        [] :: texts.map String.toList := by
  induction rs generalizing manifest with
  | nil =>
    obtain rfl : "" = manifest := by simpa [render] using h
    exact ⟨[], .nil, by simp, by decide, by decide⟩
  | cons r rs ih =>
    obtain ⟨text, rest, ht, hr, rfl⟩ := render_cons_ok.1 h
    obtain ⟨texts, hall, hframed, hcount, hcut⟩ := ih hr
    have hf := yaml_framed ht
    have hnone : (lines text.toList).countP isSeparator = 0 := by
      simpa [List.countP_eq_zero] using hf.not_separator
    refine ⟨text :: texts, .cons ht hall, ?_, ?_, cut_lines_render hf hcut⟩
    · simpa using ⟨hf, hframed⟩
    · rw [lines_render hf.whole, List.countP_cons_of_pos (by decide), List.countP_append, hnone,
        hcount, List.length_cons, Nat.zero_add]

def unruly : Resource :=
  (Converter.ofOptions { inNamespace := "---" }).convert
    ⟨[("name", .str "a\n---\nkind: b"), ("nodes", .arr [.str "\u2028---"])]⟩

theorem render_framed_unruly :
    ∃ manifest, render [unruly, unruly] = .ok manifest ∧
      (lines manifest.toList).countP isSeparator = 2 := by
  obtain ⟨manifest, h⟩ : ∃ manifest, render [unruly, unruly] = .ok manifest := ⟨_, rfl⟩
  obtain ⟨-, -, -, hcount, -⟩ := render_framed h
  exact ⟨manifest, h, hcount⟩

end WorkflowManifest.Manifest

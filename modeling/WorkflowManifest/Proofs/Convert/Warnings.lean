import WorkflowManifest.Convert
import WorkflowManifest.Proofs.Slug.Shape

namespace WorkflowManifest

namespace Slug

structure IsHostLabel (name : String) : Prop where
  ne_empty : name ≠ ""
  length_le : name.length ≤ 63
  all : ∀ c ∈ name.toList, IsLetterOrDigit c ∨ c = '-'
  head_ne : name.toList.head? ≠ some '-'
  last_ne : name.toList.getLast? ≠ some '-'

theorem slugify_eq_empty_iff (name : String) : slugify name = "" ↔ normalize name = "" := by
  rw [← String.toList_eq_nil_iff, ← String.toList_eq_nil_iff, toList_slugify, List.take_eq_nil_iff]
  simp

theorem length_normalize_le {name : String} (h : slugify name = normalize name) :
    (normalize name).length ≤ 63 := by
  rw [← h, ← String.length_toList]
  exact length_slugify name

theorem isHostLabel_slugify_iff (name : String) :
    IsHostLabel (slugify name) ↔
      slugify name ≠ "" ∧ (slugify name).toList.getLast? ≠ some '-' := by
  refine ⟨fun h => ⟨h.ne_empty, h.last_ne⟩, fun ⟨hne, hlast⟩ => ?_⟩
  have hslug : IsSlug (slugify name).toList := by
    rcases slugify_cases name with hslug | ⟨q, -, hq⟩
    · exact hslug
    · exact absurd (hq ▸ List.getLast?_concat) hlast
  refine ⟨hne, ?_, hslug.all, hslug.head_ne, hlast⟩
  rw [← String.length_toList]
  exact length_slugify name

end Slug

section Messages

theorem Event.text_nameNotString (value : Json) :
    (Event.nameNotString value).colouredText =
      "Workflow name is not a string, using " ++ value.text := by
  simp [colouredText, spans, Span.coloured, Span.plain]
  rfl

theorem Event.text_nameUnusable (name : String) :
    (Event.nameUnusable name).colouredText =
      "Workflow name " ++ Text.quoted name ++
        " has no usable characters, metadata.name will be empty" := by
  have htail : " has no usable characters, metadata.name will be empty" =
      " has no usable characters, " ++ "metadata.name will be empty" := by decide
  rw [htail, ← String.append_assoc]
  simp [colouredText, spans, Span.coloured, Span.plain]
  rfl

theorem Event.text_nameTruncated (name : String) :
    (Event.nameTruncated name).colouredText =
      "Resource name \x1b[90m" ++ name ++ "\x1b[39m truncated to 63 characters" := by
  have hhead : "Resource name \x1b[90m" = "Resource name " ++ "\x1b[90m" := by decide
  have htail : "\x1b[39m truncated to 63 characters" =
      "\x1b[39m" ++ s!" truncated to {Slug.maxLength} characters" := by decide
  rw [hhead, htail]
  simp only [colouredText, spans, Span.coloured, Span.plain, Span.gray, String.append_assoc,
    List.map_cons, List.map_nil, String.join_cons, String.join_nil, String.append_empty]

end Messages

section Events

theorem nameKindEvents_warn (value : Option Json) :
    ∀ e ∈ nameKindEvents value, e.level = .warn := by
  unfold nameKindEvents
  split <;> simp [Event.level]

theorem resourceNameEvents_eq (name : String) :
    resourceNameEvents name =
      if Slug.slugify name = "" then [.nameUnusable name]
      else if 63 < (Slug.normalize name).length then [.nameTruncated (Slug.normalize name)]
      else [] := by
  have hmax : Slug.maxLength = 63 := rfl
  by_cases hlong : 63 < (Slug.normalize name).length <;>
    simp [resourceNameEvents, Slug.slugify_eq_empty_iff, hmax, hlong]

theorem resourceNameEvents_warn (name : String) :
    ∀ e ∈ resourceNameEvents name, e.level = .warn := by
  rw [resourceNameEvents_eq]
  split
  · simp [Event.level]
  · split <;> simp [Event.level]

theorem resourceNameEvents_of_not_label {name : String}
    (h : ¬Slug.IsHostLabel (Slug.slugify name)) :
    .nameUnusable name ∈ resourceNameEvents name ∨
      .nameTruncated (Slug.normalize name) ∈ resourceNameEvents name := by
  rw [resourceNameEvents_eq]
  by_cases hempty : Slug.slugify name = ""
  · left
    simp [hempty]
  · have hlast : (Slug.slugify name).toList.getLast? = some '-' := by
      by_contra hlast
      exact h ((Slug.isHostLabel_slugify_iff name).2 ⟨hempty, hlast⟩)
    have hlength := ((Slug.getLast?_slugify name).1 hlast).1
    right
    simp [hempty, hlength]

end Events

namespace Converter

/-- The messages of all warnings, in order. -/
def warnings (c : Converter) (d : Document) : List String :=
  ((c.events d).filter fun e => e.level = .warn).map Event.colouredText

theorem warnings_eq (c : Converter) (d : Document) :
    c.warnings d = (nameKindEvents (d.find? "name") ++
      resourceNameEvents (c.convert d).workflow.name).map Event.colouredText := by
  have hkind : (nameKindEvents (d.find? "name")).filter (fun e => e.level = .warn) =
      nameKindEvents (d.find? "name") := by
    simpa [List.filter_eq_self] using nameKindEvents_warn (d.find? "name")
  have hname : (resourceNameEvents (c.convert d).workflow.name).filter (fun e => e.level = .warn) =
      resourceNameEvents (c.convert d).workflow.name := by
    simpa [List.filter_eq_self] using resourceNameEvents_warn (c.convert d).workflow.name
  rw [warnings, events, List.filter_append, List.filter_append, hkind, hname]
  simp [Event.level]

theorem nameKind_texts (value : Option Json) :
    (nameKindEvents value).map Event.colouredText =
      match value with
      | none | some .null | some (.str _) => []
      | some j => ["Workflow name is not a string, using " ++ j.text] := by
  cases value with
  | none => rfl
  | some j =>
    cases j with
    | null => rfl
    | str s => rfl
    | _ => exact congrArg (fun t => [t]) (Event.text_nameNotString _)

theorem resourceName_texts (name : String) :
    (resourceNameEvents name).map Event.colouredText =
      if Slug.slugify name = "" then
        ["Workflow name " ++ Text.quoted name ++
          " has no usable characters, metadata.name will be empty"]
      else if 63 < (Slug.normalize name).length then
        ["Resource name \x1b[90m" ++ Slug.normalize name ++ "\x1b[39m truncated to 63 characters"]
      else [] := by
  rw [resourceNameEvents_eq]
  split
  · rw [List.map_singleton, Event.text_nameUnusable]
  split
  · rw [List.map_singleton, Event.text_nameTruncated]
  · rfl

/-- Besides a name that is no string, the warnings tell of a resource name that is empty, or was
cut. One of these two is there whenever the resource name is no label, and nothing is said of a name
that was a string and whose resource name is all that normalizing left of it, if anything. -/
theorem warnings_tell (c : Converter) (d : Document) :
    c.warnings d =
      (match d.find? "name" with
        | none | some .null | some (.str _) => []
        | some j => ["Workflow name is not a string, using " ++ j.text]) ++
      (if (c.convert d).name = "" then
        ["Workflow name " ++ Text.quoted (c.convert d).workflow.name ++
          " has no usable characters, metadata.name will be empty"]
      else if 63 < (Slug.normalize (c.convert d).workflow.name).length then
        ["Resource name \x1b[90m" ++ Slug.normalize (c.convert d).workflow.name ++
          "\x1b[39m truncated to 63 characters"]
      else []) ∧
      (Slug.IsHostLabel (c.convert d).name ↔
        (c.convert d).name ≠ "" ∧ (c.convert d).name.toList.getLast? ≠ some '-') ∧
      (¬Slug.IsHostLabel (c.convert d).name →
        ∃ e ∈ c.events d, e.level = .warn ∧
          (e = .nameUnusable (c.convert d).workflow.name ∨
            e = .nameTruncated (Slug.normalize (c.convert d).workflow.name))) ∧
      ∀ s, d.find? "name" = some (.str s) → (c.convert d).name = Slug.normalize s →
        (c.convert d).name ≠ "" → c.warnings d = [] := by
  have hsaid : ∀ e ∈ resourceNameEvents (c.convert d).workflow.name, e ∈ c.events d :=
    fun e he => List.mem_append_left _ (List.mem_append_right _ he)
  refine ⟨?_, Slug.isHostLabel_slugify_iff _, ?_, ?_⟩
  · rw [warnings_eq, List.map_append, nameKind_texts, resourceName_texts]
    rfl
  · intro hlabel
    obtain hmem | hmem := resourceNameEvents_of_not_label hlabel
    · exact ⟨_, hsaid _ hmem, rfl, .inl rfl⟩
    · exact ⟨_, hsaid _ hmem, rfl, .inr rfl⟩
  · intro s hs hname hne
    have hworkflow : (c.convert d).workflow.name = s := congrArg workflowName hs
    have hslug : (c.convert d).name = Slug.slugify s := congrArg Slug.slugify hworkflow
    rw [hslug] at hname hne
    have hlength := Nat.not_lt.2 (Slug.length_normalize_le hname)
    rw [warnings_eq, hs, hworkflow, resourceNameEvents_eq, if_neg hne, if_neg hlength]
    rfl

def hyphenated : Document :=
  ⟨[("name", .str (String.ofList (List.replicate 62 'b' ++ [' ', 'c'])))]⟩

def plainlyNamed : Document := ⟨[("id", .null), ("name", .str "Order Sync")]⟩

theorem warnings_tell_hyphenated :
    (∃ e ∈ (ofOptions {}).events hyphenated, e.level = .warn ∧
      (e = .nameUnusable ((ofOptions {}).convert hyphenated).workflow.name ∨
        e = .nameTruncated (Slug.normalize ((ofOptions {}).convert hyphenated).workflow.name))) ∧
      (ofOptions {}).warnings plainlyNamed = [] := by
  obtain ⟨-, hlabel, hsaid, -⟩ := warnings_tell (ofOptions {}) hyphenated
  obtain ⟨-, -, -, hquiet⟩ := warnings_tell (ofOptions {}) plainlyNamed
  have hlast : ((ofOptions {}).convert hyphenated).name.toList.getLast? = some '-' := by
    decide +kernel
  refine ⟨hsaid fun h => (hlabel.1 h).2 hlast, ?_⟩
  exact hquiet "Order Sync" rfl (by decide +kernel) (by decide +kernel)

end Converter

end WorkflowManifest

import WorkflowManifest.Proofs.Json.WrittenNumber
import WorkflowManifest.Proofs.Manifest.Layout
import WorkflowManifest.Proofs.Manifest.Rendering

namespace WorkflowManifest

namespace Json

theorem exact_ofNat {n : Nat} (h : (n : Int) ≤ largestInteger) :
    exact (.ofNat n) = .ok (.ofNat n) := by
  have hleast : smallestInteger ≤ (n : Int) := by
    rw [smallestInteger]
    omega
  have hint :
      Number.isInteger { negative := false, whole := .ofDigits (Digit.ofNat n) } = true := rfl
  rw [ofNat, exact, Number.exact_eq, if_pos hint, Number.wholeValue_ofDigits, if_pos ⟨hleast, h⟩,
    Number.unsignedZero, ite_self]
  rfl

theorem exactEntries_optional {key : String} {x : Option Json} (h : ∀ y ∈ x, exact y = .ok y) :
    exactEntries (optionalEntry key x) = .ok (optionalEntry key x) := by
  cases x with
  | none => simp [optionalEntry, exactEntries]
  | some y => exact exactEntries_single_ok.2 ⟨y, h y rfl, rfl⟩

end Json

theorem SecretKey.exact_tree (s : SecretKey) : Json.exact s.tree = .ok s.tree := by
  refine Json.exact_obj_ok.2 ⟨_, Json.exactEntries_cons_ok.2 ⟨_, _, Json.exact_str _, ?_, rfl⟩, rfl⟩
  exact Json.exactEntries_optional (by simp [Json.exact_str])

namespace InstanceRef

theorem exact_tree (r : InstanceRef) : Json.exact r.tree = .ok r.tree := by
  have hport (p : UInt16) : Json.exact (.ofNat p.toNat) = .ok (.ofNat p.toNat) := by
    have hp := p.toNat_lt
    refine Json.exact_ofNat ?_
    rw [Json.largestInteger]
    omega
  refine Json.exact_obj_ok.2 ⟨_, ?_, rfl⟩
  iterate 4 refine Json.exactEntries_append_ok.2 ⟨_, _, ?_, Json.exactEntries_optional ?_, rfl⟩
  · exact Json.exactEntries_optional (by simp [Json.exact_str])
  · simp [Json.exact_str]
  · simp [Json.exact_str]
  · simp [hport]
  · simp [SecretKey.exact_tree]

theorem tree_entries {r : InstanceRef} (h : r.isEmpty = false) :
    ∃ e es, r.tree = .obj (e :: es) := by
  have hoptional (key : String) (x : Option Json) : optionalEntry key x = [] ↔ x = none := by
    cases x <;> simp [optionalEntry]
  obtain ⟨es, hes⟩ : ∃ es, r.tree = .obj es := ⟨_, rfl⟩
  cases es with
  | cons e es => exact ⟨e, es, hes⟩
  | nil =>
    simp only [tree, Json.obj.injEq, List.append_eq_nil_iff, hoptional, Option.map_eq_none_iff]
      at hes
    simp [isEmpty, hes] at h

end InstanceRef

theorem Resource.follow?_reference {r : Resource} {es : List (String × Json)}
    (h : r.written = .ok es) :
    (Json.obj es).follow? ["spec", "n8nRef"] = r.instanceRef.map InstanceRef.tree := by
  obtain ⟨hs, ws, hhs, -, rfl⟩ := written_eq_assembled.1 h
  simp only [headEntries, List.cons_append, Json.exactEntries_cons_ok, Json.exactEntries_append_ok]
    at hhs
  obtain ⟨_, _, -, ⟨_, _, hpolicy, href, rfl⟩, rfl⟩ := hhs
  obtain ⟨policy, -, rfl⟩ := Json.exactEntries_optional_ok hpolicy
  have hexact : ∀ y ∈ r.instanceRef.map InstanceRef.tree, Json.exact y = .ok y := by
    simp [InstanceRef.exact_tree]
  rw [Json.exactEntries_optional hexact] at href
  cases href
  simp [assembled, headings, Json.follow?, Entries.find?, Entries.find?_append,
    Entries.find?_optional, Entries.find?_optional_of_ne]

namespace Converter

variable {c : Converter} {d : Document}

theorem instanceRef_convert (c : Converter) (h : ∀ r ∈ c.options.instanceRef, r.isEmpty = false)
    (d : Document) : (c.convert d).instanceRef = c.options.instanceRef := by
  rw [convert]
  cases href : c.options.instanceRef with
  | none => rfl
  | some r => simp [h r href]

theorem isEmpty_of_convert {r : InstanceRef} (h : r ∈ (c.convert d).instanceRef) :
    r.isEmpty = false := by
  simpa [convert] using (Option.filter_eq_some_iff.1 h).2

theorem follow?_convert {es : List (String × Json)} (h : (c.convert d).written = .ok es) {x : Json}
    (hx : (Json.obj es).follow? ["spec", "n8nRef"] = some x) : ∃ e fs, x = .obj (e :: fs) := by
  rw [Resource.follow?_reference h] at hx
  obtain ⟨r, hr, rfl⟩ := Option.map_eq_some_iff.1 hx
  exact InstanceRef.tree_entries (isEmpty_of_convert hr)

end Converter

namespace Manifest

theorem trees_of_texts {rs : List Resource} {texts : List String}
    (h : List.Forall₂ (fun r text => r.yaml = .ok text) rs texts) :
    ∃ trees, List.Forall₂ (fun r es => r.written = .ok es) rs trees ∧
      texts = trees.map Yaml.document := by
  induction h with
  | nil => exact ⟨[], .nil, rfl⟩
  | cons hr _ ih =>
    obtain ⟨es, hes, rfl⟩ := map_eq_ok_iff.1 hr
    obtain ⟨trees, htrees, rfl⟩ := ih
    exact ⟨es :: trees, .cons hes htrees, rfl⟩

def ofTrees (trees : List (List (String × Json))) : String :=
  String.join (trees.map fun es => separator ++ Yaml.document es)

theorem render_trees {rs : List Resource} {text : String} (h : render rs = .ok text) :
    ∃ trees, List.Forall₂ (fun r es => r.written = .ok es) rs trees ∧ text = ofTrees trees := by
  have hends := render_ends rs
  rw [h] at hends
  cases hends with
  | whole hall =>
    obtain ⟨trees, htrees, rfl⟩ := trees_of_texts hall
    refine ⟨trees, htrees, ?_⟩
    rw [ofTrees, List.map_map]
    rfl

theorem references_filled {c : Converter} {ds : List Document} {text : String}
    (h : render (ds.map c.convert) = .ok text) :
    ∃ trees, List.Forall₂ (fun d es => (c.convert d).written = .ok es) ds trees ∧
      text = ofTrees trees ∧ ∀ es ∈ trees, ∀ x,
        (Json.obj es).follow? ["spec", "n8nRef"] = some x → ∃ e fs, x = .obj (e :: fs) := by
  obtain ⟨trees, htrees, rfl⟩ := render_trees h
  have hwritten := List.forall₂_map_left_iff.1 htrees
  refine ⟨trees, hwritten, rfl, fun es hes x hx => ?_⟩
  obtain ⟨hlength, hget⟩ := List.forall₂_iff_get.1 hwritten
  obtain ⟨i, rfl⟩ := List.mem_iff_get.1 hes
  exact Converter.follow?_convert (hget i (hlength.symm ▸ i.isLt) i.isLt) hx

end Manifest

end WorkflowManifest

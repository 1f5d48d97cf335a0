import WorkflowManifest.Proofs.Entries
import WorkflowManifest.Settings

namespace WorkflowManifest.Settings

variable {fields : List String}

def kept (fields : List String) (es : List (String × Json)) : List (String × Json) :=
  es.filter fun e => !fields.contains e.1

theorem kept_append (others : List String) (es : List (String × Json)) :
    kept (fields ++ others) es = kept others (kept fields es) := by
  simp [kept, List.filter_filter, Bool.and_comm]

theorem kept_congr {others : List String} (h : ∀ key, key ∈ fields ↔ key ∈ others) :
    kept fields = kept others := by
  funext es
  apply List.filter_congr
  intro e _
  simp [h]

theorem kept_eq_self {es : List (String × Json)} :
    kept fields es = es ↔ ∀ key ∈ Entries.keys es, key ∉ fields := by
  simp [kept, Entries.keys, List.filter_eq_self]

theorem filter_obj (es : List (String × Json)) :
    filter fields (.obj es) =
      if kept fields es = [] then none else some (.obj (kept fields es)) := by
  rw [filter]
  split
  next hnil =>
    have hkept : kept fields es = [] := hnil
    rw [if_pos hkept]
  next e fs hcons =>
    have hkept : kept fields es = e :: fs := hcons
    rw [hkept, if_neg (List.cons_ne_nil e fs)]

theorem filter_obj_eq_some {es : List (String × Json)} {x : Json} :
    filter fields (.obj es) = some x ↔ kept fields es ≠ [] ∧ x = .obj (kept fields es) := by
  rw [filter_obj]
  split
  next hnil => simp [hnil]
  next hne => simp [hne, eq_comm]

theorem filter_obj_eq_self {es : List (String × Json)} :
    filter fields (.obj es) = some (.obj es) ↔
      Entries.keys es ≠ [] ∧ ∀ key ∈ Entries.keys es, key ∉ fields := by
  have hkeys : Entries.keys es ≠ [] ↔ es ≠ [] := by simp [Entries.keys]
  rw [filter_obj_eq_some, ← kept_eq_self, hkeys, Json.obj.injEq]
  grind

theorem filter_congr {others : List String} (h : ∀ key, key ∈ fields ↔ key ∈ others) (j : Json) :
    filter fields j = filter others j := by
  cases j with
  | obj es => rw [filter_obj, filter_obj, kept_congr h]
  | _ => rfl

theorem filter_append (fields others : List String) (j : Json) :
    filter (fields ++ others) j = (filter fields j).bind (filter others) := by
  cases j with
  | obj es =>
    rw [filter_obj, filter_obj, kept_append]
    by_cases hnil : kept fields es = []
    · rw [hnil]
      rfl
    · rw [if_neg hnil, Option.bind_some, filter_obj]
  | _ => rfl

theorem filter_self (fields : List String) (j : Json) :
    (filter fields j).bind (filter fields) = filter fields j := by
  rw [← filter_append]
  apply filter_congr
  simp

theorem filter_comm (fields others : List String) (j : Json) :
    (filter fields j).bind (filter others) = (filter others j).bind (filter fields) := by
  rw [← filter_append, ← filter_append]
  apply filter_congr
  simp [or_comm]

theorem filter_filter {j x : Json} (h : filter fields j = some x) : filter fields x = some x := by
  have hself := filter_self fields j
  rwa [h] at hself

theorem find?_kept (key : String) (es : Entries String Json) :
    Entries.find? key (kept fields es) = if key ∈ fields then none else es.find? key := by
  rw [kept, Entries.find?_filter_eq fun key => !fields.contains key]
  simp

theorem nodup_keys_kept {es : Entries String Json} (h : (Entries.keys es).Nodup) :
    (Entries.keys (kept fields es)).Nodup :=
  Entries.nodup_of_subperm List.filter_sublist.subperm h

/-- Entries without those that are listed, the others in their order. -/
inductive Unlisted (fields : List String) :
    List (String × Json) → List (String × Json) → Prop
  | nil : Unlisted fields [] []
  | drop (h : e.1 ∈ fields) (hs : Unlisted fields es fs) : Unlisted fields (e :: es) fs
  | keep (h : e.1 ∉ fields) (hs : Unlisted fields es fs) : Unlisted fields (e :: es) (e :: fs)

theorem unlisted_kept (fields : List String) (es : List (String × Json)) :
    Unlisted fields es (kept fields es) := by
  induction es with
  | nil => exact .nil
  | cons e es ih =>
    by_cases h : e.1 ∈ fields
    · rw [kept, List.filter_cons_of_neg (by simpa using h)]
      exact .drop h ih
    · rw [kept, List.filter_cons_of_pos (by simpa using h)]
      exact .keep h ih

theorem Unlisted.eq_kept {es fs : List (String × Json)} (h : Unlisted fields es fs) :
    fs = kept fields es := by
  induction h with
  | nil => rfl
  | drop h _ ih => rw [ih, kept, kept, List.filter_cons_of_neg (by simpa using h)]
  | keep h _ ih => rw [ih, kept, kept, List.filter_cons_of_pos (by simpa using h)]

/-- What is left of a value: of an object its unlisted entries, if there are any, and of everything
else all of it. -/
inductive Leaves (fields : List String) : Json → Option Json → Prop
  | entries (h : Unlisted fields es fs) (hne : fs ≠ []) :
      Leaves fields (.obj es) (some (.obj fs))
  | nothing (h : Unlisted fields es []) : Leaves fields (.obj es) none
  | other (h : ∀ es, j ≠ .obj es) : Leaves fields j (some j)

theorem leaves_filter (fields : List String) (j : Json) : Leaves fields j (filter fields j) := by
  cases j with
  | obj es =>
    have hes := unlisted_kept fields es
    rw [filter_obj]
    by_cases hnil : kept fields es = []
    · rw [if_pos hnil]
      rw [hnil] at hes
      exact .nothing hes
    · rw [if_neg hnil]
      exact .entries hes hnil
  | _ => exact .other nofun

theorem Leaves.eq_filter {j : Json} {x : Option Json} (h : Leaves fields j x) :
    filter fields j = x := by
  cases h with
  | entries h hne =>
    obtain rfl := h.eq_kept
    rw [filter_obj, if_neg hne]
  | nothing h => rw [filter_obj, if_pos h.eq_kept.symm]
  | other h =>
    cases j with
    | obj es => exact absurd rfl (h es)
    | _ => rfl

theorem collected_kept {es : Entries String Json} (h : (Entries.keys es).Nodup) :
    Entries.collected (kept fields es) = kept fields es := by
  rw [← Entries.insertAll_nil]
  exact Entries.insertAll_of_nodup [] _ (nodup_keys_kept h)

/-- A filter leaves the unlisted entries of an object and whatever is no object. Two of them in
either order come to one that drops the fields of both, where an object of which the first leaves
nothing stays nothing, and a second time a filter changes nothing. -/
theorem filters_in_turn (fields others : List String) (j : Json) :
    (∀ x, Leaves fields j x ↔ filter fields j = x) ∧
      (filter fields j).bind (filter others) = filter (fields ++ others) j ∧
      (filter fields j).bind (filter others) = (filter others j).bind (filter fields) ∧
      (filter fields j).bind (filter fields) = filter fields j ∧
      ∀ es fs, (Entries.keys es).Nodup → Unlisted fields es fs → Entries.collected fs = fs := by
  refine ⟨fun x => ⟨Leaves.eq_filter, ?_⟩, (filter_append fields others j).symm,
    filter_comm fields others j, filter_self fields j, ?_⟩
  · rintro rfl
    exact leaves_filter fields j
  · intro es fs hes hfs
    rw [hfs.eq_kept]
    exact collected_kept hes

def cased : List (String × Json) := [("mcp", .null), ("MCP", .bool true)]

theorem filters_in_turn_cased :
    filter ["mcp"] (.obj cased) = some (.obj [("MCP", .bool true)]) ∧
      (filter ["mcp"] (.obj cased)).bind (filter ["MCP", "mcp"]) = none ∧
      (filter ["MCP", "mcp"] (.obj cased)).bind (filter ["mcp"]) = none ∧
      Entries.collected [("MCP", Json.bool true)] = [("MCP", .bool true)] := by
  obtain ⟨hleaves, hturn, hcomm, -, hcollected⟩ :=
    filters_in_turn ["mcp"] ["MCP", "mcp"] (.obj cased)
  have hleft : Unlisted ["mcp"] cased [("MCP", .bool true)] :=
    .drop (by decide) (.keep (by decide) .nil)
  refine ⟨(hleaves _).1 (.entries hleft (List.cons_ne_nil _ _)), ?_, ?_,
    hcollected cased _ (by decide) hleft⟩
  · rw [hturn]
    rfl
  · rw [← hcomm, hturn]
    rfl

end WorkflowManifest.Settings

import WorkflowManifest.Proofs.Json.Fixpoint

namespace WorkflowManifest

namespace Entries

theorem find?_optional (key : String) (x : Option Json) :
    find? key (optionalEntry key x) = x := by
  cases x <;> simp [optionalEntry, find?]

theorem find?_optional_of_ne {key k : String} (h : k ≠ key) (x : Option Json) :
    find? key (optionalEntry k x) = none := by
  cases x <;> simp [optionalEntry, find?, h]

theorem keys_optional (key : String) (x : Option Json) :
    (keys (optionalEntry key x)).Sublist [key] := by
  cases x <;> simp [optionalEntry, keys]

theorem mem_optional {e : String × Json} {key : String} {x : Option Json}
    (h : e ∈ optionalEntry key x) : x = some e.2 := by
  cases x with
  | none => simp [optionalEntry] at h
  | some x =>
    obtain rfl := List.mem_singleton.1 h
    rfl

end Entries

namespace Json

/-- The value that keys lead to, one object after the other. -/
def follow? : List String → Json → Option Json
  | [], j => some j
  | key :: path, .obj es => (Entries.find? key es).bind (follow? path)
  | _ :: _, _ => none

abbrev Written : Option Json → Option Json → Prop := Option.Rel fun x y => exact x = .ok y

theorem exactEntries_optional_ok {key : String} {x : Option Json} {gs : List (String × Json)}
    (h : exactEntries (optionalEntry key x) = .ok gs) :
    ∃ y, Written x y ∧ gs = optionalEntry key y := by
  cases x with
  | none =>
    obtain rfl : [] = gs := by simpa [optionalEntry, exactEntries] using h
    exact ⟨none, .none, rfl⟩
  | some x =>
    obtain ⟨y, hy, rfl⟩ := exactEntries_single_ok.1 h
    exact ⟨some y, .some hy, rfl⟩

theorem entryChars_concat (es : List (String × Json)) (key : String) (x : Json) :
    ∃ before, entryChars (es ++ [(key, x)]) = before ++ x.chars := by
  induction es with
  | nil => exact ⟨quote key ++ [':'], by simp [entryChars]⟩
  | cons e es ih =>
    obtain ⟨k, y⟩ := e
    obtain ⟨before, hbefore⟩ := ih
    refine ⟨quote k ++ ':' :: y.chars ++ ',' :: before, ?_⟩
    cases es <;> simp_all [entryChars]

theorem text_concat (es : List (String × Json)) (key : String) (x : Json) :
    ∃ before, (Json.obj (es ++ [(key, x)])).text = before ++ x.text ++ "\x7d" := by
  obtain ⟨before, hbefore⟩ := entryChars_concat es key x
  refine ⟨String.ofList ('\x7b' :: before), ?_⟩
  rw [text, chars, hbefore, ← List.cons_append, String.ofList_append, String.ofList_append]
  rfl

end Json

structure Workflow.Writes (w w' : Workflow) : Prop where
  name : w'.name = w.name
  nodes : Json.Written w.nodes w'.nodes
  connections : Json.Written w.connections w'.connections
  settings : Json.Written w.settings w'.settings
  staticData : Json.Written w.staticData w'.staticData
  pinData : Json.Written w.pinData w'.pinData

namespace Workflow

theorem writes_of_exact {w : Workflow} {ws : List (String × Json)}
    (h : Json.exactEntries w.entries = .ok ws) : ∃ w', w.Writes w' ∧ ws = w'.entries := by
  simp only [entries, List.append_assoc, List.cons_append, Json.exactEntries_cons_ok,
    Json.exactEntries_append_ok, Json.exact_str, Except.ok.injEq] at h
  obtain ⟨_, _, rfl, ⟨_, _, hn, ⟨_, _, hc, ⟨_, _, hs, ⟨_, _, hd, hp, rfl⟩, rfl⟩, rfl⟩, rfl⟩,
    rfl⟩ := h
  obtain ⟨nodes, hnodes, rfl⟩ := Json.exactEntries_optional_ok hn
  obtain ⟨connections, hconnections, rfl⟩ := Json.exactEntries_optional_ok hc
  obtain ⟨settings, hsettings, rfl⟩ := Json.exactEntries_optional_ok hs
  obtain ⟨staticData, hstatic, rfl⟩ := Json.exactEntries_optional_ok hd
  obtain ⟨pinData, hpin, rfl⟩ := Json.exactEntries_optional_ok hp
  refine ⟨{ name := w.name, nodes, connections, settings, staticData, pinData },
    ⟨rfl, hnodes, hconnections, hsettings, hstatic, hpin⟩, ?_⟩
  simp [entries]

end Workflow

namespace Resource

def headings (r : Resource) : List (String × Json) :=
  [("apiVersion", .str apiVersion), ("kind", .str resourceKind),
    ("metadata", .obj [("name", .str r.name), ("namespace", .str r.inNamespace)])]

def assembled (r : Resource) (head workflow : List (String × Json)) : List (String × Json) :=
  r.headings ++ [("spec", .obj (head ++ [("workflow", .obj workflow)]))]

theorem exact_headings (r : Resource) : Json.exactEntries r.headings = .ok r.headings := by
  simp [headings, Json.exactEntries, Json.exact, bind, Except.bind, pure, Except.pure, Except.map]

theorem written_eq_assembled {r : Resource} {es : List (String × Json)} :
    r.written = .ok es ↔
      ∃ hs ws, Json.exactEntries r.headEntries = .ok hs ∧
        Json.exactEntries r.workflow.entries = .ok ws ∧ es = r.assembled hs ws := by
  have hentries : r.entries = r.assembled r.headEntries r.workflow.entries := rfl
  rw [written, hentries]
  simp only [assembled, Json.exactEntries_append_ok, exact_headings, Json.exactEntries_single_ok,
    Json.exact_obj_ok, Except.ok.injEq]
  constructor
  · rintro ⟨_, _, rfl, ⟨_, ⟨_, ⟨hs, _, hhs, ⟨_, ⟨ws, hws, rfl⟩, rfl⟩, rfl⟩, rfl⟩, rfl⟩, rfl⟩
    exact ⟨hs, ws, hhs, hws, rfl⟩
  · rintro ⟨hs, ws, hhs, hws, rfl⟩
    exact ⟨_, _, rfl, ⟨_, ⟨_, ⟨hs, _, hhs, ⟨_, ⟨ws, hws, rfl⟩, rfl⟩, rfl⟩, rfl⟩, rfl⟩, rfl⟩

theorem not_mem_keys_headEntries (r : Resource) : "workflow" ∉ Entries.keys r.headEntries := by
  have hsub : (Entries.keys r.headEntries).Sublist ["active", "syncPolicy", "n8nRef"] := by
    simp only [headEntries, List.cons_append, Entries.keys_cons, Entries.keys_append]
    apply List.Sublist.cons_cons
    exact (Entries.keys_optional _ _).append (Entries.keys_optional _ _)
  exact fun hmem => absurd (hsub.subset hmem) (by decide)

theorem follow?_assembled (r : Resource) {hs : List (String × Json)}
    (h : "workflow" ∉ Entries.keys hs) (ws : List (String × Json)) :
    (Json.obj (r.assembled hs ws)).follow? ["spec", "workflow"] = some (.obj ws) := by
  have hworkflow : Entries.find? "workflow" (hs ++ [("workflow", .obj ws)]) = some (.obj ws) := by
    rw [Entries.find?_append, Entries.find?_eq_none_iff.2 h]
    rfl
  simp [assembled, headings, Json.follow?, Entries.find?, hworkflow]

theorem text_assembled (r : Resource) (hs ws : List (String × Json)) :
    ∃ before, (Json.obj (r.assembled hs ws)).text = before ++ (Json.obj ws).text ++ "\x7d\x7d" := by
  obtain ⟨inside, hinside⟩ := Json.text_concat hs "workflow" (.obj ws)
  obtain ⟨before, hbefore⟩ :=
    Json.text_concat r.headings "spec" (.obj (hs ++ [("workflow", .obj ws)]))
  refine ⟨before ++ inside, ?_⟩
  rw [assembled, hbefore, hinside]
  simp [String.append_assoc]

theorem json_ok {r : Resource} {text : String} (h : r.json = .ok text) :
    ∃ es, r.written = .ok es ∧ text = (Json.obj es).text :=
  map_eq_ok_iff.1 h

theorem written_again {r : Resource} {es : List (String × Json)} (h : r.written = .ok es) :
    ∃ w, r.workflow.Writes w ∧ Json.exactEntries r.workflow.entries = .ok w.entries ∧
      (Json.obj es).follow? ["spec", "workflow"] = some (.obj w.entries) ∧
      (∃ before, (Json.obj es).text = before ++ (Json.obj w.entries).text ++ "\x7d\x7d") ∧
      ({ r with workflow := w } : Resource).written = .ok es := by
  obtain ⟨hs, ws, hhs, hws, rfl⟩ := written_eq_assembled.1 h
  obtain ⟨w, hw, rfl⟩ := Workflow.writes_of_exact hws
  have hkeys : "workflow" ∉ Entries.keys hs := by
    rw [Json.keys_of_exact hhs]
    exact r.not_mem_keys_headEntries
  have hagain : ({ r with workflow := w } : Resource).written = .ok (r.assembled hs w.entries) :=
    written_eq_assembled.2 ⟨hs, w.entries, hhs, Json.exactEntries_of_exact hws, rfl⟩
  exact ⟨w, hw, hws, r.follow?_assembled hkeys w.entries, r.text_assembled hs w.entries, hagain⟩

end Resource

end WorkflowManifest

import WorkflowManifest.Proofs.Yaml.Spot

namespace WorkflowManifest

open Json (Shell wrapAll numbersBefore numbersAfter)
open Yaml (Spot Outside step)

namespace Yaml

theorem around_document {shells : List Shell} (hne : shells ≠ []) :
    ∃ (spot : Spot) (before after : List Char), Outside (spot.indent + 1) after ∧
      ∀ x es, Json.obj es = wrapAll shells x →
        entryChars 0 es = before ++ spot.write x ++ after := by
  cases shells with
  | nil => exact absurd rfl hne
  | cons s shells =>
    cases s with
    | item xs ys => exact ⟨.under 0, [], [], .nothing, nofun⟩
    | entry es key fs =>
      obtain ⟨spot, hspot⟩ := around_wrapAll (Spot.ofKey 0 key) shells
      rw [Spot.indent_ofKey] at hspot
      obtain ⟨before, after, houter, hafter⟩ :=
        ((around_values (Nat.le_refl 0) es key fs).comp (wrapAll shells)).trans hspot
      refine ⟨spot, before, after, by simpa using hafter [] .nothing, fun x es' hx => ?_⟩
      obtain rfl := Json.obj.inj hx
      exact houter x

theorem around_document_entry (shells : List Shell) (es fs : List (String × Json)) :
    ∃ (n : Nat) (before after : List Char), Outside (n + 1) after ∧
      ∀ e top, Json.obj top = wrapAll shells (.obj (es ++ e :: fs)) →
        entryChars 0 top = before ++ entryChars n [e] ++ after := by
  cases shells with
  | nil =>
    obtain ⟨before, after, houter, hafter⟩ := around_entry (Nat.le_refl 0) es fs
    refine ⟨0, before, after, by simpa using hafter [] .nothing, fun e top htop => ?_⟩
    obtain rfl := Json.obj.inj htop
    exact houter e
  | cons s shells =>
    obtain ⟨spot, before, after, hout, houter⟩ :=
      around_document (List.cons_ne_nil s shells)
    obtain ⟨before', after', hmap, hafter⟩ := around_map spot es fs
    refine ⟨_, before ++ before', after' ++ after, hafter after hout, fun e top htop => ?_⟩
    have hentry : spot.write (.obj (es ++ e :: fs)) =
        before' ++ entryChars (spot.indent + step) [e] ++ after' := hmap e
    rw [houter _ top htop, hentry]
    simp

end Yaml

theorem Yaml.Spot.write_num (spot : Spot) (n : Json.Number) :
    spot.write (.num n) = ' ' :: numberChars n ++ ['\n'] := by
  cases spot <;> rfl

theorem Yaml.Spot.write_str (spot : Spot) (s : String) :
    spot.write (.str s) = ' ' :: scalarLines (spot.indent + step) s := by
  cases spot <;> rfl

namespace Resource

theorem exact_of_yaml {r : Resource} {text : String} (h : r.yaml = .ok text) :
    ∃ es, Json.exact (.obj r.entries) = .ok (.obj es) ∧
      text = String.ofList (Yaml.entryChars 0 es) := by
  obtain ⟨es, hes, rfl⟩ := map_eq_ok_iff.1 h
  exact ⟨es, Json.exact_obj_ok.2 ⟨es, hes, rfl⟩, rfl⟩

theorem exact_of_json {r : Resource} {text : String} (h : r.json = .ok text) :
    ∃ es, Json.exact (.obj r.entries) = .ok (.obj es) ∧ text = (Json.obj es).text := by
  obtain ⟨es, hes, rfl⟩ := map_eq_ok_iff.1 h
  exact ⟨es, Json.exact_obj_ok.2 ⟨es, hes, rfl⟩, rfl⟩

theorem yaml_around {shells : List Shell} (hne : shells ≠ []) :
    ∃ (spot : Spot) (before after : List Char), Outside (spot.indent + 1) after ∧
      ∀ (r : Resource) (x : Json), Json.obj r.entries = wrapAll shells x →
        ∀ text, r.yaml = .ok text → ∃ y, Json.exact x = .ok y ∧
          text = String.ofList (before ++ spot.write y ++ after) := by
  obtain ⟨spot, before, after, hout, houter⟩ :=
    Yaml.around_document (mt List.map_eq_nil_iff.1 hne : shells.map Shell.written ≠ [])
  refine ⟨spot, before, after, hout, fun r x hx text htext => ?_⟩
  obtain ⟨es, hes, rfl⟩ := exact_of_yaml htext
  rw [hx] at hes
  obtain ⟨y, hy, hes⟩ := Json.written_of_exact_wrapAll hes
  exact ⟨y, hy, by rw [houter y es hes]⟩

theorem yaml_around_entry (shells : List Shell) (es : List (String × Json)) (x : Json)
    (fs : List (String × Json)) :
    ∃ (n : Nat) (y : Json) (before after : List Char), Outside (n + 1) after ∧
      ∀ (r : Resource) (key : String),
        Json.obj r.entries = wrapAll shells (.obj (es ++ (key, x) :: fs)) →
          ∀ text, r.yaml = .ok text →
            text = String.ofList (before ++ Yaml.entryChars n [(key, y)] ++ after) := by
  obtain ⟨n, before, after, hout, houter⟩ := Yaml.around_document_entry
    (shells.map Shell.written) (Json.attempted Json.exactEntries es)
    (Json.attempted Json.exactEntries fs)
  refine ⟨n, Json.attempted Json.exact x, before, after, hout, fun r key hx text htext => ?_⟩
  obtain ⟨top, htop, rfl⟩ := exact_of_yaml htext
  rw [hx] at htop
  obtain ⟨z, hz, htop⟩ := Json.written_of_exact_wrapAll htop
  obtain ⟨y, hy, rfl⟩ := Json.written_of_exact_wrap (s := .entry es key fs) hz
  rw [houter (key, y) top htop, Json.attempted_of_ok hy]

theorem json_around (shells : List Shell) :
    ∃ before after : List Char, ∀ (r : Resource) (x : Json),
      Json.obj r.entries = wrapAll shells x → ∀ text, r.json = .ok text →
        ∃ y, Json.exact x = .ok y ∧ text = String.ofList (before ++ y.chars ++ after) := by
  obtain ⟨before, after, houter⟩ := Json.chars_wrapAll (shells.map Shell.written)
  refine ⟨before, after, fun r x hx text htext => ?_⟩
  obtain ⟨es, hes, rfl⟩ := exact_of_json htext
  rw [hx] at hes
  obtain ⟨y, hy, hes⟩ := Json.written_of_exact_wrapAll hes
  exact ⟨y, hy, by rw [Json.text, hes, houter]⟩

theorem decides_around {r : Resource} {shells : List Shell} {n : Json.Number}
    (h : Json.obj r.entries = wrapAll shells (.num n)) :
    Json.Decides (numbersBefore shells ++ n :: numbersAfter shells) r.written := by
  have hnumbers := Json.numbers_wrapAll shells (.num n)
  rw [← h, Json.numbers, Json.numbers, List.append_assoc] at hnumbers
  rw [← List.singleton_append, ← hnumbers]
  exact Json.decides_exactEntries r.entries

theorem yaml_around_num (shells : List Shell) :
    ∃ before after : String, ∀ (r : Resource) (n : Json.Number),
      Json.obj r.entries = wrapAll shells (.num n) → ∀ text, r.yaml = .ok text →
        ∃ m, n.exact = .ok m ∧
          text = before ++ String.ofList (Yaml.numberChars m) ++ after := by
  by_cases hne : shells = []
  · subst hne
    exact ⟨"", "", fun r n hn => by simp [wrapAll] at hn⟩
  obtain ⟨spot, before, after, -, htext⟩ := yaml_around hne
  refine ⟨String.ofList (before ++ [' ']), String.ofList ('\n' :: after), ?_⟩
  intro r n hn text hyaml
  obtain ⟨y, hy, rfl⟩ := htext r (.num n) hn text hyaml
  obtain ⟨m, hm, rfl⟩ := map_eq_ok_iff.1 hy
  refine ⟨m, hm, ?_⟩
  rw [Spot.write_num, ← String.ofList_append, ← String.ofList_append]
  simp

theorem yaml_around_str (shells : List Shell) :
    ∃ (parent : Nat) (before after : List Char), Outside (parent + 1) after ∧
      ∀ (r : Resource) (s : String), Json.obj r.entries = wrapAll shells (.str s) →
        ∀ text, r.yaml = .ok text →
          text = String.ofList (before ++ Yaml.scalarLines (parent + step) s ++ after) := by
  by_cases hne : shells = []
  · subst hne
    exact ⟨0, [], [], .nothing, fun r s hs => by simp [wrapAll] at hs⟩
  obtain ⟨spot, before, after, hout, htext⟩ := yaml_around hne
  refine ⟨spot.indent, before ++ [' '], after, hout, fun r s hs text hyaml => ?_⟩
  obtain ⟨y, hy, rfl⟩ := htext r (.str s) hs text hyaml
  obtain rfl := Except.ok.inj ((Json.exact_str s).symm.trans hy)
  rw [Spot.write_str]
  simp

theorem yaml_around_simpleKey (shells : List Shell) (es : List (String × Json)) (x : Json)
    (fs : List (String × Json)) :
    ∃ (parent : Nat) (before after : List Char), Yaml.Ends (':' :: after) ∧
      ∀ (r : Resource) (key : String), Yaml.isSimpleKey key = true →
        Json.obj r.entries = wrapAll shells (.obj (es ++ (key, x) :: fs)) →
          ∀ text, r.yaml = .ok text →
            text = String.ofList
              (before ++ Yaml.scalarChars (parent + step) key.toList ++ ':' :: after) := by
  obtain ⟨n, y, before, after, -, htext⟩ := yaml_around_entry shells es x fs
  refine ⟨n, before, Yaml.underKey n y ++ after, Yaml.ends_underKey n y after, ?_⟩
  intro r key hkey hr text hyaml
  rw [htext r key hr text hyaml, Yaml.entryChars_simple hkey]
  simp

theorem yaml_around_markedKey (shells : List Shell) (es : List (String × Json)) (x : Json)
    (fs : List (String × Json)) :
    ∃ (parent : Nat) (before after : List Char), Outside (parent + 1) after ∧
      ∀ (r : Resource) (key : String), Yaml.isSimpleKey key = false →
        Json.obj r.entries = wrapAll shells (.obj (es ++ (key, x) :: fs)) →
          ∀ text, r.yaml = .ok text →
            text = String.ofList (before ++ Yaml.scalarLines (parent + step) key ++ after) := by
  obtain ⟨n, y, before, after, -, htext⟩ := yaml_around_entry shells es x fs
  refine ⟨n, before ++ ['?', ' '],
    Yaml.spaces n ++ ':' :: (Yaml.besideMark n y ++ after),
    .line (Nat.lt_succ_self n) rfl _, ?_⟩
  intro r key hkey hr text hyaml
  rw [htext r key hr text hyaml, Yaml.entryChars_marked hkey]
  simp

theorem json_around_num (shells : List Shell) :
    ∃ before after : String, ∀ (r : Resource) (n : Json.Number),
      Json.obj r.entries = wrapAll shells (.num n) → ∀ text, r.json = .ok text →
        ∃ m, n.exact = .ok m ∧ text = before ++ m.text ++ after := by
  obtain ⟨before, after, htext⟩ := json_around shells
  refine ⟨String.ofList before, String.ofList after, fun r n hn text hjson => ?_⟩
  obtain ⟨y, hy, rfl⟩ := htext r (.num n) hn text hjson
  obtain ⟨m, hm, rfl⟩ := map_eq_ok_iff.1 hy
  refine ⟨m, hm, ?_⟩
  rw [Json.chars, String.ofList_append, String.ofList_append, Json.Number.text]

def holding (nodes : Json) : Resource where
  name := "held"
  inNamespace := defaultNamespace
  active := true
  syncPolicy := none
  instanceRef := none
  workflow := { name := "Held", nodes := some nodes }

def nodeShells : List Shell :=
  [.entry [("apiVersion", .str apiVersion), ("kind", .str resourceKind),
      ("metadata", .obj [("name", .str "held"), ("namespace", .str defaultNamespace)])] "spec" [],
    .entry [("active", .bool true)] "workflow" [], .entry [("name", .str "Held")] "nodes" []]

end Resource

end WorkflowManifest

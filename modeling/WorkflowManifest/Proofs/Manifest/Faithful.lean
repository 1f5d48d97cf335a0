import WorkflowManifest.Convert
import WorkflowManifest.Proofs.Json.Alike
import WorkflowManifest.Proofs.Yaml.Faithful

namespace WorkflowManifest

namespace Yaml

mutual

theorem legible_of_exact : ∀ {x y : Json}, Json.exact x = .ok y → Legible y
  | x, .null, _ => trivial
  | x, .bool _, _ => trivial
  | x, .str _, _ => trivial
  | x, .num m, h => by
    obtain ⟨n, rfl, hn⟩ := Json.source_of_exact h
    exact looksOther_of_exact hn
  | x, .arr ys, h => by
    obtain ⟨xs, rfl, hxs⟩ := Json.source_of_exact h
    exact legibleItems_of_exact hxs
  | x, .obj fs, h => by
    obtain ⟨es, rfl, hes⟩ := Json.source_of_exact h
    exact legibleEntries_of_exact hes

theorem legibleItems_of_exact : ∀ {xs ys : List Json},
    Json.exactItems xs = .ok ys → LegibleItems ys
  | xs, [], _ => trivial
  | [], y :: ys, h => by simp [Json.exactItems] at h
  | x :: xs, y :: ys, h => by
    obtain ⟨z, zs, hz, hzs, heq⟩ := Json.exactItems_cons_ok.1 h
    obtain ⟨rfl, rfl⟩ := List.cons.inj heq
    exact ⟨legible_of_exact hz, legibleItems_of_exact hzs⟩

theorem legibleEntries_of_exact : ∀ {es fs : List (String × Json)},
    Json.exactEntries es = .ok fs → LegibleEntries fs
  | es, [], _ => trivial
  | [], (l, y) :: fs, h => by simp [Json.exactEntries] at h
  | (k, x) :: es, (l, y) :: fs, h => by
    obtain ⟨z, gs, hz, hgs, heq⟩ := Json.exactEntries_cons_ok.1 h
    obtain ⟨hhead, rfl⟩ := List.cons.inj heq
    obtain ⟨rfl, rfl⟩ := Prod.mk.inj hhead
    exact ⟨legible_of_exact hz, legibleEntries_of_exact hgs⟩

end

end Yaml

open Json (AlikeEntries)

/-- The same sections are there, and each is the same up to the spelling of numbers. -/
structure Workflow.Alike (w w' : Workflow) : Prop where
  name : w.name = w'.name
  nodes : Option.Rel Json.Alike w.nodes w'.nodes
  connections : Option.Rel Json.Alike w.connections w'.connections
  settings : Option.Rel Json.Alike w.settings w'.settings
  staticData : Option.Rel Json.Alike w.staticData w'.staticData
  pinData : Option.Rel Json.Alike w.pinData w'.pinData

structure Resource.Alike (r r' : Resource) : Prop where
  name : r.name = r'.name
  inNamespace : r.inNamespace = r'.inNamespace
  active : r.active = r'.active
  syncPolicy : r.syncPolicy = r'.syncPolicy
  instanceRef : r.instanceRef = r'.instanceRef
  workflow : r.workflow.Alike r'.workflow

def Lacks (key : String) (es : List (String × Json)) : Prop := ∀ e ∈ es, e.1 ≠ key

@[simp] theorem lacks_nil (key : String) : Lacks key [] := by simp [Lacks]

@[simp] theorem lacks_cons {key : String} {e : String × Json} {es : List (String × Json)} :
    Lacks key (e :: es) ↔ e.1 ≠ key ∧ Lacks key es := by
  simp [Lacks]

@[simp] theorem lacks_append {key : String} {es fs : List (String × Json)} :
    Lacks key (es ++ fs) ↔ Lacks key es ∧ Lacks key fs := by
  simp [Lacks, or_imp, forall_and]

@[simp] theorem lacks_optionalEntry {key k : String} (h : k ≠ key) (x : Option Json) :
    Lacks key (optionalEntry k x) := by
  cases x <;> simp [optionalEntry, h]

theorem alike_optional {key : String} {x y : Option Json} {es fs : List (String × Json)}
    (hes : Lacks key es) (hfs : Lacks key fs)
    (h : AlikeEntries (optionalEntry key x ++ es) (optionalEntry key y ++ fs)) :
    Option.Rel Json.Alike x y ∧ AlikeEntries es fs := by
  cases x with
  | none =>
    cases y with
    | none => exact ⟨.none, h⟩
    | some y =>
      cases es with
      | nil => exact h.elim
      | cons e es => exact absurd h.1 (hes e (by simp))
  | some x =>
    cases y with
    | none =>
      cases fs with
      | nil => exact h.elim
      | cons f fs => exact absurd h.1.symm (hfs f (by simp))
    | some y => exact ⟨.some h.2.1, h.2.2⟩

theorem alike_lastOptional {key : String} {x y : Option Json}
    (h : AlikeEntries (optionalEntry key x) (optionalEntry key y)) : Option.Rel Json.Alike x y := by
  rw [← List.append_nil (optionalEntry key x), ← List.append_nil (optionalEntry key y)] at h
  exact (alike_optional (lacks_nil key) (lacks_nil key) h).1

theorem eq_of_rel_map {α : Type} {f : α → Json} (hf : ∀ a b, Json.Alike (f a) (f b) → a = b)
    {x y : Option α} (h : Option.Rel Json.Alike (x.map f) (y.map f)) : x = y := by
  cases x with
  | none =>
    cases y with
    | none => rfl
    | some y => nomatch h
  | some x =>
    cases y with
    | none => nomatch h
    | some y =>
      cases h with
      | some h => rw [hf x y h]

theorem eq_of_alike_str (s t : String) (h : Json.Alike (.str s) (.str t)) : s = t := h

theorem eq_of_alike_port (p q : UInt16) (h : Json.Alike (.ofNat p.toNat) (.ofNat q.toNat)) :
    p = q := by
  cases h with
  | integer _ _ value =>
    rw [Json.Number.wholeValue_ofDigits, Json.Number.wholeValue_ofDigits] at value
    exact UInt16.toNat_inj.1 (Int.ofNat.inj value)
  | double hm => nomatch hm

theorem eq_of_alike_secret (s t : SecretKey) (h : Json.Alike s.tree t.tree) : s = t := by
  obtain ⟨-, hname, hkey⟩ := h
  have hkey := alike_lastOptional hkey
  obtain ⟨sname, skey⟩ := s
  obtain ⟨tname, tkey⟩ := t
  obtain rfl : sname = tname := hname
  obtain rfl : skey = tkey := eq_of_rel_map eq_of_alike_str hkey
  rfl

theorem eq_of_alike_instanceRef (a b : InstanceRef) (h : Json.Alike a.tree b.tree) : a = b := by
  simp only [InstanceRef.tree, Json.Alike, List.append_assoc] at h
  obtain ⟨hurl, h⟩ := alike_optional (by simp) (by simp) h
  obtain ⟨hname, h⟩ := alike_optional (by simp) (by simp) h
  obtain ⟨hspace, h⟩ := alike_optional (by simp) (by simp) h
  obtain ⟨hport, h⟩ := alike_optional (by simp) (by simp) h
  have hsecret := alike_lastOptional h
  obtain ⟨aurl, aname, aspace, aport, asecret⟩ := a
  obtain ⟨burl, bname, bspace, bport, bsecret⟩ := b
  obtain rfl : aurl = burl := eq_of_rel_map eq_of_alike_str hurl
  obtain rfl : aname = bname := eq_of_rel_map eq_of_alike_str hname
  obtain rfl : aspace = bspace := eq_of_rel_map eq_of_alike_str hspace
  obtain rfl : aport = bport := eq_of_rel_map eq_of_alike_port hport
  obtain rfl : asecret = bsecret := eq_of_rel_map eq_of_alike_secret hsecret
  rfl

theorem eq_of_alike_syncPolicy (p q : SyncPolicy)
    (h : Json.Alike (.str p.name) (.str q.name)) : p = q := by
  have hname : p.name = q.name := h
  cases p <;> cases q <;> simp_all [SyncPolicy.name]

theorem Workflow.alike_of_entries {w w' : Workflow} (h : AlikeEntries w.entries w'.entries) :
    w.Alike w' := by
  simp only [Workflow.entries, List.append_assoc, List.cons_append] at h
  obtain ⟨-, hname, h⟩ := h
  obtain ⟨hnodes, h⟩ := alike_optional (by simp) (by simp) h
  obtain ⟨hconnections, h⟩ := alike_optional (by simp) (by simp) h
  obtain ⟨hsettings, h⟩ := alike_optional (by simp) (by simp) h
  obtain ⟨hstatic, h⟩ := alike_optional (by simp) (by simp) h
  have hpin := alike_lastOptional h
  exact ⟨hname, hnodes, hconnections, hsettings, hstatic, hpin⟩

namespace Resource

theorem alike_of_entries {r r' : Resource} (h : AlikeEntries r.entries r'.entries) :
    r.Alike r' := by
  obtain ⟨-, -, -, -, -, ⟨-, hname, -, hspace, -⟩, -, hspec, -⟩ := h
  simp only [headEntries, List.append_assoc, List.cons_append] at hspec
  obtain ⟨-, hactive, hspec⟩ := hspec
  obtain ⟨hsync, hspec⟩ := alike_optional (by simp) (by simp) hspec
  obtain ⟨href, -, hworkflow, -⟩ := alike_optional (by simp) (by simp) hspec
  exact ⟨hname, hspace, hactive, eq_of_rel_map eq_of_alike_syncPolicy hsync,
    eq_of_rel_map eq_of_alike_instanceRef href, Workflow.alike_of_entries hworkflow⟩

theorem yaml_ok {r : Resource} {text : String} (h : r.yaml = .ok text) :
    ∃ es, r.written = .ok es ∧ text = Yaml.document es :=
  map_eq_ok_iff.1 h

/-- Two resources with one text are the same but for how their numbers are spelled. -/
theorem alike_of_yaml {r r' : Resource} {text : String} (h : r.yaml = .ok text)
    (h' : r'.yaml = .ok text) : r.Alike r' := by
  obtain ⟨es, hes, rfl⟩ := yaml_ok h
  obtain ⟨fs, hfs, htext⟩ := yaml_ok h'
  have hne : es ≠ [] := by
    obtain ⟨spec, rfl⟩ := written_ok hes
    simp
  have hne' : fs ≠ [] := by
    obtain ⟨spec, rfl⟩ := written_ok hfs
    simp
  obtain rfl : es = fs := by
    apply Yaml.entryChars_injective (Yaml.legibleEntries_of_exact hes)
      (Yaml.legibleEntries_of_exact hfs) hne hne'
    exact String.ofList_injective htext
  exact alike_of_entries (Json.alikeEntries_of_exact hes hfs)

def reading (zeros : List Digit) : Resource where
  name := "reading"
  inNamespace := defaultNamespace
  active := true
  syncPolicy := none
  instanceRef := none
  workflow := { name := "reading", nodes := some (.num ⟨false, .lead 0 [], 5 :: zeros, none⟩) }

theorem alike_of_yaml_reading : ∃ text, (reading []).yaml = .ok text ∧
    (reading [0]).yaml = .ok text ∧ (reading []).Alike (reading [0]) := by
  have hsome : (Binary64.ofDecimal? [1, 5] (-1)).isSome = true := by decide +kernel
  have hzero := Binary64.ofDecimal?_append_zero [1, 5] (-1)
  obtain ⟨x, hx⟩ := Option.isSome_iff_exists.1 hsome
  have hexact : Json.Number.exact ⟨false, .lead 0 [], [5], none⟩ =
      .ok (.ofBinary64 false x) := by
    have hm : Json.Number.magnitude? ⟨false, .lead 0 [], [5], none⟩ = some x := hx
    rw [Json.Number.exact, hm]
    rfl
  have hexact' : Json.Number.exact ⟨false, .lead 0 [], [5, 0], none⟩ =
      .ok (.ofBinary64 false x) := by
    have hm : Json.Number.magnitude? ⟨false, .lead 0 [], [5, 0], none⟩ = some x := hzero.trans hx
    rw [Json.Number.exact, hm]
    rfl
  have hwritten : (reading [0]).written = (reading []).written := by
    simp [written, entries, headEntries, reading, Workflow.entries, optionalEntry,
      Json.exactEntries, Json.exact, hexact, hexact']
  obtain ⟨es, hes⟩ : ∃ es, (reading []).written = .ok es := by
    simp [written, entries, headEntries, reading, Workflow.entries, optionalEntry,
      Json.exactEntries, Json.exact, hexact, bind, Except.bind, pure, Except.pure, Except.map]
  have h : (reading []).yaml = .ok (Yaml.document es) := by rw [yaml, hes]; rfl
  have h' : (reading [0]).yaml = .ok (Yaml.document es) := by rw [yaml, hwritten, hes]; rfl
  exact ⟨_, h, h', alike_of_yaml h h'⟩

end Resource

end WorkflowManifest

import WorkflowManifest.Proofs.Document.Grammar
import WorkflowManifest.Proofs.Manifest.Place
import WorkflowManifest.Proofs.Yaml.Decoded

namespace WorkflowManifest

open Json (Shell wrapAll)
open Yaml (step isSimpleKey scalarChars scalarLines decodeScalar decodeNode)

/-- Between two texts stands a scalar that is decoded to a string, nothing of what stands behind it
being part of it. -/
def Holds (decode : List Char → Option (List Char × List Char)) (before after s text : String) :
    Prop :=
  ∃ scalar : List Char, text = before ++ String.ofList scalar ++ after ∧
    decode (scalar ++ after.toList) = some (s.toList, after.toList)

/-- Which scalar it is that stands there. -/
structure Stands (decode : List Char → Option (List Char × List Char))
    (before after s text : String) (scalar : List Char) : Prop where
  around : text = before ++ String.ofList scalar ++ after
  decoded : decode (scalar ++ after.toList) = some (s.toList, after.toList)

theorem stands_ofList {decode : List Char → Option (List Char × List Char)}
    {before scalar after : List Char} {s : String}
    (h : decode (scalar ++ after) = some (s.toList, after)) :
    Stands decode (String.ofList before) (String.ofList after) s
      (String.ofList (before ++ scalar ++ after)) scalar where
  around := by rw [String.ofList_append, String.ofList_append]
  decoded := by rwa [String.toList_ofList]

theorem Stands.holds {decode : List Char → Option (List Char × List Char)}
    {before after s text : String} {scalar : List Char}
    (h : Stands decode before after s text scalar) : Holds decode before after s text :=
  ⟨scalar, h.around, h.decoded⟩

namespace Resource

theorem value_written (shells : List Shell) :
    ∃ (parent : Nat) (before after : String), ∀ (r : Resource) (s : String),
      Json.obj r.entries = wrapAll shells (.str s) → ∀ text, r.yaml = .ok text →
        ∃ n, Stands (decodeNode parent) before after s text (scalarLines n s) := by
  obtain ⟨n, before, after, hout, hwritten⟩ := yaml_around_str shells
  refine ⟨n, String.ofList before, String.ofList after, fun r s hs text hyaml => ⟨n + step, ?_⟩⟩
  rw [hwritten r s hs text hyaml]
  exact stands_ofList (Yaml.decodeNode_written s hout)

theorem simpleKey_written (shells : List Shell) (es : List (String × Json)) (x : Json)
    (fs : List (String × Json)) :
    ∃ (parent : Nat) (before after : String), ∀ (r : Resource) (key : String),
      isSimpleKey key = true →
        Json.obj r.entries = wrapAll shells (.obj (es ++ (key, x) :: fs)) →
          ∀ text, r.yaml = .ok text →
            ∃ n, Stands (decodeScalar parent) before (":" ++ after) key text
              (scalarChars n key.toList) := by
  obtain ⟨n, before, after, hends, hwritten⟩ := yaml_around_simpleKey shells es x fs
  refine ⟨n, String.ofList before, String.ofList after, ?_⟩
  intro r key hkey hr text hyaml
  have hstyle := Yaml.style_ne_literal_of_line (Yaml.line_of_isSimpleKey hkey)
  have hcolon : ":" ++ String.ofList after = String.ofList (':' :: after) :=
    String.ofList_append.symm
  rw [hwritten r key hkey hr text hyaml, hcolon]
  exact ⟨n + step, stands_ofList (Yaml.decodeScalar_written hstyle (n + step) hends nofun)⟩

theorem markedKey_written (shells : List Shell) (es : List (String × Json)) (x : Json)
    (fs : List (String × Json)) :
    ∃ (parent : Nat) (before after : String), ∀ (r : Resource) (key : String),
      isSimpleKey key = false →
        Json.obj r.entries = wrapAll shells (.obj (es ++ (key, x) :: fs)) →
          ∀ text, r.yaml = .ok text →
            ∃ n, Stands (decodeNode parent) before after key text (scalarLines n key) := by
  obtain ⟨n, before, after, hout, hwritten⟩ := yaml_around_markedKey shells es x fs
  refine ⟨n, String.ofList before, String.ofList after, ?_⟩
  intro r key hkey hr text hyaml
  rw [hwritten r key hkey hr text hyaml]
  exact ⟨n + step, stands_ofList (Yaml.decodeNode_written key hout)⟩

theorem value_decoded (shells : List Shell) :
    ∃ (parent : Nat) (before after : String), ∀ (r : Resource) (s : String),
      Json.obj r.entries = wrapAll shells (.str s) → ∀ text, r.yaml = .ok text →
        Holds (decodeNode parent) before after s text := by
  obtain ⟨parent, before, after, hwritten⟩ := value_written shells
  refine ⟨parent, before, after, fun r s hs text hyaml => ?_⟩
  obtain ⟨n, hstands⟩ := hwritten r s hs text hyaml
  exact hstands.holds

theorem simpleKey_decoded (shells : List Shell) (es : List (String × Json)) (x : Json)
    (fs : List (String × Json)) :
    ∃ (parent : Nat) (before after : String), ∀ (r : Resource) (key : String),
      isSimpleKey key = true →
        Json.obj r.entries = wrapAll shells (.obj (es ++ (key, x) :: fs)) →
          ∀ text, r.yaml = .ok text →
            Holds (decodeScalar parent) before (":" ++ after) key text := by
  obtain ⟨parent, before, after, hwritten⟩ := simpleKey_written shells es x fs
  refine ⟨parent, before, after, fun r key hkey hr text hyaml => ?_⟩
  obtain ⟨n, hstands⟩ := hwritten r key hkey hr text hyaml
  exact hstands.holds

theorem markedKey_decoded (shells : List Shell) (es : List (String × Json)) (x : Json)
    (fs : List (String × Json)) :
    ∃ (parent : Nat) (before after : String), ∀ (r : Resource) (key : String),
      isSimpleKey key = false →
        Json.obj r.entries = wrapAll shells (.obj (es ++ (key, x) :: fs)) →
          ∀ text, r.yaml = .ok text → Holds (decodeNode parent) before after key text := by
  obtain ⟨parent, before, after, hwritten⟩ := markedKey_written shells es x fs
  refine ⟨parent, before, after, fun r key hkey hr text hyaml => ?_⟩
  obtain ⟨n, hstands⟩ := hwritten r key hkey hr text hyaml
  exact hstands.holds

/-- A string is decoded from what is written for it at any place: as a value with the end of its
line, as a key up to its colon, or as a key behind a question mark with the end of its line. -/
theorem strings_decoded (shells : List Shell) :
    (∃ (parent : Nat) (before after : String), ∀ (r : Resource) (s : String),
      Json.obj r.entries = wrapAll shells (.str s) → ∀ text, r.yaml = .ok text →
        Holds (decodeNode parent) before after s text) ∧
      ∀ (es : List (String × Json)) (x : Json) (fs : List (String × Json)),
        (∃ (parent : Nat) (before after : String), ∀ (r : Resource) (key : String),
          isSimpleKey key = true →
            Json.obj r.entries = wrapAll shells (.obj (es ++ (key, x) :: fs)) →
              ∀ text, r.yaml = .ok text →
                Holds (decodeScalar parent) before (":" ++ after) key text) ∧
        ∃ (parent : Nat) (before after : String), ∀ (r : Resource) (key : String),
          isSimpleKey key = false →
            Json.obj r.entries = wrapAll shells (.obj (es ++ (key, x) :: fs)) →
              ∀ text, r.yaml = .ok text → Holds (decodeNode parent) before after key text :=
  ⟨value_decoded shells, fun es x fs =>
    ⟨simpleKey_decoded shells es x fs, markedKey_decoded shells es x fs⟩⟩

def unruly : String := "\u2028 007\n\n"

def unrulyNodes : Json := .obj [("true", .str unruly), ("two\nlines", .null)]

theorem strings_decoded_unruly :
    ∃ text, (holding unrulyNodes).yaml = .ok text ∧
      (∃ parent before after, Holds (decodeNode parent) before after unruly text) ∧
      (∃ parent before after, Holds (decodeScalar parent) before (":" ++ after) "true" text) ∧
      ∃ parent before after, Holds (decodeNode parent) before after "two\nlines" text := by
  have hwritable : (holding unrulyNodes).yaml.toOption.isSome := by decide +kernel
  obtain ⟨text, htext⟩ := Option.isSome_iff_exists.1 hwritable
  have hyaml := Document.ok_of_toOption htext
  obtain ⟨⟨p, a, b, hvalue⟩, -⟩ :=
    strings_decoded (nodeShells ++ [.entry [] "true" [("two\nlines", .null)]])
  obtain ⟨⟨q, c, d, hsimple⟩, -⟩ :=
    (strings_decoded nodeShells).2 [] (.str unruly) [("two\nlines", .null)]
  obtain ⟨-, t, e, f, hmarked⟩ :=
    (strings_decoded nodeShells).2 [("true", .str unruly)] .null []
  exact ⟨text, hyaml, ⟨p, a, b, hvalue _ unruly rfl text hyaml⟩,
    ⟨q, c, d, hsimple _ "true" (by decide) rfl text hyaml⟩,
    t, e, f, hmarked _ "two\nlines" (by decide) rfl text hyaml⟩

end Resource

end WorkflowManifest

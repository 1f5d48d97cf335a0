import WorkflowManifest.Proofs.Manifest.Strings
import WorkflowManifest.Proofs.Yaml.Escapes

namespace WorkflowManifest

open Json (Shell wrapAll)
open Yaml (isSimpleKey decodeScalar decodeNode Showable Shows)

/-- Between two texts stands a scalar that is decoded to a string and shows its characters. -/
def Displays (decode : List Char → Option (List Char × List Char))
    (before after s text : String) : Prop :=
  ∃ scalar, Stands decode before after s text scalar ∧ Shows scalar s.toList

namespace Resource

/-- Whatever string of showable characters stands at a place, its scalar shows them: as a value, as
a key before its colon, or as a key behind a question mark. -/
theorem strings_shown (shells : List Shell) :
    (∃ (parent : Nat) (before after : String), ∀ (r : Resource) (s : String),
      (∀ c ∈ s.toList, Showable c) → Json.obj r.entries = wrapAll shells (.str s) →
        ∀ text, r.yaml = .ok text → Displays (decodeNode parent) before after s text) ∧
      ∀ (es : List (String × Json)) (x : Json) (fs : List (String × Json)),
        (∃ (parent : Nat) (before after : String), ∀ (r : Resource) (key : String),
          (∀ c ∈ key.toList, Showable c) → isSimpleKey key = true →
            Json.obj r.entries = wrapAll shells (.obj (es ++ (key, x) :: fs)) →
              ∀ text, r.yaml = .ok text →
                Displays (decodeScalar parent) before (":" ++ after) key text) ∧
        ∃ (parent : Nat) (before after : String), ∀ (r : Resource) (key : String),
          (∀ c ∈ key.toList, Showable c) → isSimpleKey key = false →
            Json.obj r.entries = wrapAll shells (.obj (es ++ (key, x) :: fs)) →
              ∀ text, r.yaml = .ok text →
                Displays (decodeNode parent) before after key text := by
  refine ⟨?_, fun es x fs => ⟨?_, ?_⟩⟩
  · obtain ⟨parent, before, after, hwritten⟩ := value_written shells
    refine ⟨parent, before, after, fun r s hshow hs text hyaml => ?_⟩
    obtain ⟨n, hstands⟩ := hwritten r s hs text hyaml
    exact ⟨_, hstands, Yaml.shows_scalarLines hshow n⟩
  · obtain ⟨parent, before, after, hwritten⟩ := simpleKey_written shells es x fs
    refine ⟨parent, before, after, fun r key hshow hkey hr text hyaml => ?_⟩
    obtain ⟨n, hstands⟩ := hwritten r key hkey hr text hyaml
    exact ⟨_, hstands, Yaml.shows_scalarChars hshow n⟩
  · obtain ⟨parent, before, after, hwritten⟩ := markedKey_written shells es x fs
    refine ⟨parent, before, after, fun r key hshow hkey hr text hyaml => ?_⟩
    obtain ⟨n, hstands⟩ := hwritten r key hkey hr text hyaml
    exact ⟨_, hstands, Yaml.shows_scalarLines hshow n⟩

def colourful : String := "\t\"é\u2028漢😀"

def colourfulNodes : Json := .obj [("ключ", .str colourful), ("ein\nSchlüssel", .null)]

theorem strings_shown_colourful :
    ∃ text, (holding colourfulNodes).yaml = .ok text ∧
      (∃ parent before after, Displays (decodeNode parent) before after colourful text) ∧
      (∃ parent before after, Displays (decodeScalar parent) before (":" ++ after) "ключ" text) ∧
      ∃ parent before after,
        Displays (decodeNode parent) before after "ein\nSchlüssel" text := by
  have hwritable : (holding colourfulNodes).yaml.toOption.isSome := by decide +kernel
  obtain ⟨text, htext⟩ := Option.isSome_iff_exists.1 hwritable
  have hyaml := Document.ok_of_toOption htext
  obtain ⟨⟨p, a, b, hvalue⟩, -⟩ :=
    strings_shown (nodeShells ++ [.entry [] "ключ" [("ein\nSchlüssel", .null)]])
  obtain ⟨⟨q, c, d, hsimple⟩, -⟩ :=
    (strings_shown nodeShells).2 [] (.str colourful) [("ein\nSchlüssel", .null)]
  obtain ⟨-, t, e, f, hmarked⟩ :=
    (strings_shown nodeShells).2 [("ключ", .str colourful)] .null []
  have hshow {s : String} (hs : s.toList.all (Showable ·)) : ∀ c ∈ s.toList, Showable c := by
    simpa using hs
  exact ⟨text, hyaml,
    ⟨p, a, b, hvalue _ colourful (hshow (by decide +kernel)) rfl text hyaml⟩,
    ⟨q, c, d, hsimple _ "ключ" (hshow (by decide +kernel)) (by decide +kernel) rfl text hyaml⟩,
    t, e, f, hmarked _ "ein\nSchlüssel" (hshow (by decide +kernel)) (by decide +kernel) rfl text
      hyaml⟩

end Resource

end WorkflowManifest

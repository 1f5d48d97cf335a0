import WorkflowManifest.Proofs.Document.Grammar
import WorkflowManifest.Proofs.Json.Rounded
import WorkflowManifest.Proofs.Manifest.Place
import WorkflowManifest.Convert

namespace WorkflowManifest

open Json (Shell wrapAll)

/-- The value of a text as a number. -/
def denoted? (text : String) : Option ℚ :=
  (Json.Number.read text.toList).toOption.map Json.Number.value

theorem denoted?_numberChars (n : Json.Number) :
    denoted? (String.ofList (Yaml.numberChars n)) = some n.value := by
  have hread : Json.Number.read (Yaml.numberChars n) = .ok n :=
    Json.Number.read_charsWith (.inl rfl) n
  rw [denoted?, String.toList_ofList, hread]
  rfl

namespace Resource

/-- The text around a number is the same for all numbers, and the text of each denotes what
`Json.Number.WrittenAs` leaves of it. -/
theorem numbers_written (shells : List Shell) :
    ∃ before after : String, ∀ (r : Resource) (n : Json.Number),
      Json.obj r.entries = wrapAll shells (.num n) → ∀ text, r.yaml = .ok text →
        ∃ written q, text = before ++ written ++ after ∧ denoted? written = some q ∧
          n.WrittenAs q := by
  obtain ⟨before, after, haround⟩ := yaml_around_num shells
  refine ⟨before, after, fun r n hn text htext => ?_⟩
  obtain ⟨m, hm, rfl⟩ := haround r n hn text htext
  exact ⟨_, m.value, rfl, denoted?_numberChars m, Json.Number.writtenAs_of_exact hm⟩

def tenth : Json.Number := { negative := false, whole := .zero, fraction := [1, 0] }

theorem value_tenth : tenth.value = 1 / 10 := by
  have hdigits : Digit.value (tenth.whole.digits ++ tenth.fraction) = 10 := rfl
  have hscale : tenth.scale = -2 := rfl
  rw [Json.Number.value, hdigits, hscale]
  norm_num [tenth]

theorem numbers_written_tenth :
    let r := holding (.arr [.num tenth])
    Json.obj r.entries = wrapAll (nodeShells ++ [.item [] []]) (.num tenth) ∧
      ∃ before written after, r.yaml = .ok (before ++ written ++ after) ∧
        denoted? written = some (1 / 10) := by
  intro r
  have hfew : tenth.Few := by
    refine ⟨by decide, .inr ?_⟩
    calc
      (2 : ℚ) ^ (-1022 : Int) ≤ 2 ^ (-4 : Int) := zpow_le_zpow_right₀ (by norm_num) (by norm_num)
      _ ≤ |tenth.value| := by rw [value_tenth]; norm_num
  have hwritable : r.yaml.toOption.isSome := by decide +kernel
  obtain ⟨text, htext⟩ := Option.isSome_iff_exists.1 hwritable
  have hyaml := Document.ok_of_toOption htext
  obtain ⟨before, after, hwritten⟩ := numbers_written (nodeShells ++ [.item [] []])
  obtain ⟨written, q, rfl, hq, hkept⟩ := hwritten r tenth rfl text hyaml
  exact ⟨rfl, before, written, after, hyaml, by rw [hq, hkept.exact (.inr hfew), value_tenth]⟩

end Resource

namespace Document

def aboveTenth : Json.Number :=
  { negative := false
    whole := .zero
    fraction := [1, 0, 0, 0, 0, 0, 0, 0, 0, 0, 0, 0, 0, 0, 0, 0, 0, 0, 0, 1] }

/-- The last digit is lost without an error. -/
theorem aboveTenth_rounded :
    ∃ d, read "\x7b\"nodes\":0.10000000000000000001\x7d" = .ok d ∧
      d.find? "nodes" = some (.num aboveTenth) ∧
      ((Converter.ofOptions {}).convert d).yaml = .ok ("apiVersion: n8n.slys.dev/v1alpha1\n" ++
        "kind: N8nWorkflow\nmetadata:\n  name: unnamed-workflow\n  namespace: n8n\nspec:\n" ++
        "  active: true\n  workflow:\n    name: unnamed-workflow\n    nodes: 0.1\n") ∧
      denoted? "0.1" = some (1 / 10) ∧ aboveTenth.value ≠ 1 / 10 := by
  refine ⟨⟨[("nodes", .num aboveTenth)]⟩, rfl, rfl, by decide +kernel, ?_, ?_⟩
  · have hread : Json.Number.read "0.1".toList = .ok ⟨false, .zero, [1], none⟩ := rfl
    have hdigits : Digit.value ((Json.Whole.zero).digits ++ [1]) = 1 := rfl
    have hscale : Json.Number.scale ⟨false, .zero, [1], none⟩ = -1 := rfl
    rw [denoted?, hread, Except.toOption, Option.map_some, Json.Number.value, hdigits, hscale]
    norm_num
  · have hdigits : Digit.value (aboveTenth.whole.digits ++ aboveTenth.fraction) =
        10000000000000000001 := rfl
    have hscale : aboveTenth.scale = -20 := rfl
    rw [Json.Number.value, hdigits, hscale]
    norm_num [aboveTenth]

end Document

end WorkflowManifest

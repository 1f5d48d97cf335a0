import WorkflowManifest.Text.Age
import WorkflowManifest.Text.Category
import WorkflowManifest.Text.CodeRange

namespace WorkflowManifest.Text

inductive CodeSet where
  | listed (ranges : List CodeRange)
  | categories (allowed : List Category)
  | version (v : Version)
  | union (a b : CodeSet)
  | inter (a b : CodeSet)
  | diff (a b : CodeSet)

namespace CodeSet

instance : Union CodeSet := ⟨union⟩
instance : Inter CodeSet := ⟨inter⟩
instance : SDiff CodeSet := ⟨diff⟩

def has (c : Char) : CodeSet → Bool
  | .listed ranges => ranges.any (·.has c.toNat)
  | .categories allowed => allowed.contains (category c)
  | .version v => v.has c
  | .union a b => a.has c || b.has c
  | .inter a b => a.has c && b.has c
  | .diff a b => a.has c && !b.has c

def ofLines (lines : List String) : CodeSet := .listed (lines.flatMap CodeRange.ofText)

def edges : CodeSet → List Nat
  | .listed ranges => ranges.flatMap CodeRange.edges
  | .categories _ => Run.starts 0 Category.runs
  | .version _ => Run.starts 0 Version.runs
  | .union a b | .inter a b | .diff a b => a.edges ++ b.edges

end CodeSet

end WorkflowManifest.Text

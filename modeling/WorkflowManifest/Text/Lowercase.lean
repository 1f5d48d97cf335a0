import WorkflowManifest.Text.CaseFold
import WorkflowManifest.Text.Property.Letters

namespace WorkflowManifest.Text

def onlyFolded : List Nat :=
  [0xb5, 0x17f, 0x345, 0x3c2, 0x3d0, 0x3d1, 0x3d5, 0x3d6, 0x3f0, 0x3f1, 0x3f5, 0x13f8, 0x1c80,
   0x1c81, 0x1c82, 0x1c83, 0x1c85, 0x1c86, 0x1c87, 0x1c88, 0x1e9b, 0x1fbe, 0x1fd3, 0x1fe3, 0xab70,
   0xfb05]

def lowerRows : List FoldRow :=
  foldRows.filter (!onlyFolded.contains ·.first) ++
    [⟨0x13a0, 0x13ef, 1, 0xab70⟩, ⟨0x13f0, 0x13f5, 1, 0x13f8⟩]

def lowerChars (c : Char) : List Char :=
  if c.toNat < 128 then [c.toLower]
  else if c = '\u0130' then ['i', '\u0307']
  else match lowerRows.find? (·.covers c.toNat) with
    | some r => [Char.ofNat (r.target + (c.toNat - r.first))]
    | none => [c]

def meetsCased (cs : List Char) : Bool :=
  ((cs.dropWhile fun c => CodeSet.caseIgnorable.has c).head?).any fun c => CodeSet.cased.has c

/-- A sigma at the end of a word has a form of its own. What stands before it is read backwards. -/
def lowerSigma (before after : List Char) : Char :=
  if meetsCased before && !meetsCased after then '\u03c2' else '\u03c3'

def lowerFrom : List Char → List Char → List Char
  | _, [] => []
  | before, c :: cs =>
    (if c = '\u03a3' then [lowerSigma before cs] else lowerChars c) ++ lowerFrom (c :: before) cs

def lowercase (cs : List Char) : List Char := lowerFrom [] cs

end WorkflowManifest.Text

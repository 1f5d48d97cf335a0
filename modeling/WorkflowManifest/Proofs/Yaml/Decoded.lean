import WorkflowManifest.Proofs.Yaml.DecodedLine
import WorkflowManifest.Proofs.Yaml.Reader

namespace WorkflowManifest.Yaml

open Text

/-- A scalar of a node at the column `parent`, up to what ends it. -/
def decodeScalar (parent : Nat) : List Char → Option (List Char × List Char)
  | '\x27' :: cs => decodeSingle (.fold .text) cs
  | '"' :: cs => decodeDouble cs
  | '|' :: cs => decodeLiteral parent cs
  | cs => decodePlain parent cs

/-- A scalar with the end of its line, which a literal block has ended itself. -/
def decodeNode (parent : Nat) (cs : List Char) : Option (List Char × List Char) :=
  if cs.head? = some '|' then decodeScalar parent cs
  else match decodeScalar parent cs with
    | some (text, '\n' :: rest) => some (text, rest)
    | _ => none

variable {parent : Nat} {rest : List Char}

theorem no_lineFeed_of_single {cs : List Char} (h : style cs = .single) : '\n' ∉ cs := by
  intro hlf
  have hwanted : wanted cs = .literal := by simp [wanted, hlf]
  rw [style, hwanted] at h
  dsimp only at h
  split at h <;> nomatch h

theorem decodeScalar_plain {cs : List Char} (h : plainAllowed cs = true) (hne : cs ≠ [])
    (rest : List Char) : decodeScalar parent (cs ++ rest) = decodePlain parent (cs ++ rest) := by
  obtain ⟨c, ds, rfl⟩ := List.exists_cons_of_ne_nil hne
  have hmarks := (start_of_plainAllowed h).1
  have hmark {d : Char} (hd : d ∈ startMarks) : c ≠ d := by
    rintro rfl
    simp [hd] at hmarks
  have hsingle := hmark (d := '\x27') (by decide)
  have hdouble := hmark (d := '"') (by decide)
  have hbar := hmark (d := '|') (by decide)
  rw [List.cons_append]
  unfold decodeScalar
  split <;> simp_all

theorem decodeScalar_written {cs : List Char} (hs : style cs ≠ .literal) (n : Nat)
    (hrest : Ends rest) (hcloses : ∀ behind, rest = '\n' :: behind → Outside (parent + 1) behind) :
    decodeScalar parent (scalarChars n cs ++ rest) = some (cs, rest) := by
  have ha := style_allows cs
  unfold scalarChars
  cases h : style cs with
  | plain =>
    rw [h] at ha
    have hne : cs ≠ [] := by
      rintro rfl
      exact absurd ha.2 (by decide)
    exact (decodeScalar_plain ha.1 hne rest).trans (decodePlain_written ha.1 ha.2 hrest hcloses)
  | single =>
    rw [h] at ha
    have hquotable := quotable_of_singleAllowed ha (no_lineFeed_of_single h)
    have hdecoded : decodeSingle (.fold .text) (singleBody n false cs ++ '\x27' :: rest) =
        some (cs, rest) := decodeSingle_singleBody hquotable trivial hrest.no_quote
    simp only [List.cons_append, List.append_assoc, decodeScalar]
    exact hdecoded
  | double =>
    simp only [List.cons_append, List.append_assoc, decodeScalar]
    exact decodeDouble_written cs rest
  | literal => exact absurd h hs

theorem decodeNode_written (s : String) (hrest : Outside (parent + 1) rest) :
    decodeNode parent (scalarLines (parent + step) s ++ rest) = some (s.toList, rest) := by
  by_cases hs : style s.toList = .literal
  · have ha := style_allows s.toList
    rw [hs] at ha
    have hdecoded := decodeLiteral_written ha.1 (List.ne_nil_of_mem ha.2)
      (hrest.mono (Nat.le_succ _))
    rw [scalarLines_literal hs, List.cons_append, decodeNode, List.head?_cons, if_pos rfl,
      decodeScalar, ← hdecoded]
    simp
  · have hdecoded : decodeScalar parent (scalarChars (parent + step) s.toList ++ '\n' :: rest) =
        some (s.toList, '\n' :: rest) :=
      decodeScalar_written hs (parent + step) (.line rest)
        fun behind h => (List.cons.inj h).2 ▸ hrest
    have hbar : (scalarChars (parent + step) s.toList ++ '\n' :: rest).head? ≠ some '|' := by
      have htoken := (reads_scalarChars hs (parent + step)).layout ('\n' :: rest)
      intro hhead
      obtain ⟨ds, hds⟩ := List.head?_eq_some_iff.1 hhead
      rw [hds] at htoken
      nomatch htoken
    rw [scalarLines_of_ne_literal hs, List.append_assoc, lineEnd, List.singleton_append, decodeNode,
      if_neg hbar, hdecoded]
    rfl

end WorkflowManifest.Yaml

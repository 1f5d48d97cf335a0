import WorkflowManifest.Proofs.Yaml.Reader

namespace WorkflowManifest.Yaml

variable {indent : Nat} {rest : List Char}

theorem readNode_items {fuel : Nat} {xs : List Json} (hne : xs ≠ [])
    (h : readItems fuel indent (itemChars indent xs ++ rest) = some (xs, rest))
    (hgap : ∀ x, ∃ cs, besideMark indent x = ' ' :: cs) :
    readNode (fuel + 1) indent (itemChars indent xs ++ rest) = some (.arr xs, rest) := by
  obtain ⟨x, xs, rfl⟩ := List.exists_cons_of_ne_nil hne
  obtain ⟨cs, hcs⟩ := hgap x
  have hlayout : layoutOf (itemChars indent (x :: xs) ++ rest) = .items := by
    rw [itemChars, hcs]
    rfl
  rw [readNode, hlayout]
  simp only
  rw [h, Option.map_some]

theorem readNode_entries {fuel : Nat} {es : List (String × Json)} (hne : es ≠ [])
    (h : readEntries fuel indent (entryChars indent es ++ rest) = some (es, rest)) :
    readNode (fuel + 1) indent (entryChars indent es ++ rest) = some (.obj es, rest) := by
  obtain ⟨⟨k, x⟩, es, rfl⟩ := List.exists_cons_of_ne_nil hne
  rw [readNode]
  cases hk : isSimpleKey k with
  | true =>
    have hr := reads_key hk indent (indent + step)
    obtain ⟨more, hmore⟩ : ∃ more, entryChars indent ((k, x) :: es) ++ rest =
        scalarChars (indent + step) k.toList ++ ':' :: (underKey indent x ++ more) := by
      refine ⟨(if es.isEmpty then [] else spaces indent) ++ entryChars indent es ++ rest, ?_⟩
      simp [entryChars, hk]
    rw [hmore] at h ⊢
    rw [hr.layout]
    simp only
    rw [hr.back _ (ends_underKey indent x more)]
    simp [h]
  | false =>
    obtain ⟨more, hmore⟩ : ∃ more, entryChars indent ((k, x) :: es) ++ rest = '?' :: ' ' :: more :=
      ⟨_, by simp only [entryChars, hk]; rfl⟩
    rw [hmore] at h ⊢
    simp [layoutOf, h]

theorem fuel_pos {fuel : Nat} {x : Json} (h : sizeOf x ≤ fuel) : ∃ f, fuel = f + 1 := by
  refine ⟨fuel - 1, ?_⟩
  cases x <;> simp at h <;> omega

theorem fuel_cons {α : Type} [SizeOf α] {fuel : Nat} {x : α} {xs : List α}
    (h : sizeOf (x :: xs) ≤ fuel) : ∃ f, fuel = f + 1 ∧ sizeOf x ≤ f ∧ sizeOf xs ≤ f := by
  rw [List.cons.sizeOf_spec] at h
  exact ⟨fuel - 1, by omega, by omega, by omega⟩

theorem sizeOf_value_le (k : String) (x : Json) : sizeOf x ≤ sizeOf (k, x) := by
  rw [Prod.mk.sizeOf_spec]
  omega

/-- A value that stands on the line of its key or mark, with the blank before it. -/
def Inline (n : Nat) (x : Json) (cs : List Char) : Prop :=
  ∀ fuel rest, sizeOf x ≤ fuel → Outside n rest → readNode fuel n (cs ++ rest) = some (x, rest)

theorem inline_line {n : Nat} {cs : List Char} {t : Token} (h : Reads n cs t) :
    Inline n t.value (cs ++ lineEnd) := by
  intro fuel rest hf _
  obtain ⟨fuel, rfl⟩ := fuel_pos hf
  rw [List.append_assoc]
  exact readNode_token h fuel

theorem inline_null (n : Nat) : Inline n .null ("null".toList ++ lineEnd) :=
  inline_line (t := .plain "null".toList) (reads_plain (by decide) (by decide) n)

theorem inline_bool (n : Nat) (b : Bool) : Inline n (.bool b) (Json.literal b ++ lineEnd) := by
  cases b with
  | true => exact inline_line (t := .plain "true".toList) (reads_plain (by decide) (by decide) n)
  | false => exact inline_line (t := .plain "false".toList) (reads_plain (by decide) (by decide) n)

theorem inline_number {m : Json.Number} (h : looksOther (numberChars m) = true) (n : Nat) :
    Inline n (.num m) (numberChars m ++ lineEnd) := by
  rw [← value_number h]
  exact inline_line (reads_number m n)

theorem inline_string {n : Nat} (hn : 0 < n) (s : String) :
    Inline n (.str s) (scalarLines n s) := by
  intro fuel rest hf hrest
  obtain ⟨fuel, rfl⟩ := fuel_pos hf
  exact readNode_scalarLines hn s hrest fuel

theorem inline_emptyList (n : Nat) : Inline n (.arr []) ("[]".toList ++ lineEnd) :=
  inline_line (t := .plain "[]".toList) (reads_plain (by decide) (by decide) n)

theorem inline_emptyMap (n : Nat) : Inline n (.obj []) ("\x7b\x7d".toList ++ lineEnd) :=
  inline_line (t := .plain "\x7b\x7d".toList) (reads_plain (by decide) (by decide) n)

def Under (indent : Nat) (x : Json) : Prop :=
  ∀ fuel rest, sizeOf x ≤ fuel → Outside (indent + 1) rest → NoItem indent rest →
    readUnder (readNode fuel) indent (underKey indent x ++ rest) = some (x, rest)

theorem Inline.under {indent : Nat} {x : Json} {cs : List Char}
    (hcs : underKey indent x = ' ' :: cs) (h : Inline (indent + step) x cs) : Under indent x := by
  intro fuel rest hf hrest _
  rw [hcs]
  exact h fuel rest hf (hrest.mono (by simp [step]))

theorem dropSpaces?_step (n : Nat) (cs : List Char) :
    dropSpaces? n (spaces (n + step) ++ cs) = some (' ' :: ' ' :: cs) := by
  rw [spaces, ← List.replicate_append_replicate, List.append_assoc, ← spaces, dropSpaces?_spaces]
  rfl

theorem outside_item (indent : Nat) (cs : List Char) :
    Outside (indent + step) (spaces indent ++ '-' :: cs) :=
  .line (by simp [step]) rfl cs

theorem readItems_last {fuel : Nat} {x : Json} {cs : List Char}
    (hcs : besideMark indent x = ' ' :: cs)
    (hx : readNode fuel (indent + step) (cs ++ rest) = some (x, rest)) (hno : NoItem indent rest) :
    readItems (fuel + 1) indent (itemChars indent [x] ++ rest) = some ([x], rest) := by
  rw [itemChars_singleton, hcs]
  simp only [List.cons_append, readItems, hx]
  split
  next more hmore => exact absurd hmore (hno more)
  next => rfl

theorem readItems_cons {fuel : Nat} {x y : Json} {xs : List Json} {cs ds : List Char}
    (hcs : besideMark indent x = ' ' :: cs) (hds : besideMark indent y = ' ' :: ds)
    (hx : ∀ more, readNode fuel (indent + step) (cs ++ (spaces indent ++ '-' :: more)) =
      some (x, spaces indent ++ '-' :: more))
    (hxs : readItems fuel indent (itemChars indent (y :: xs) ++ rest) = some (y :: xs, rest)) :
    readItems (fuel + 1) indent (itemChars indent (x :: y :: xs) ++ rest) =
      some (x :: y :: xs, rest) := by
  obtain ⟨more, hmore⟩ : ∃ more, itemChars indent (y :: xs) ++ rest = '-' :: ' ' :: more := by
    refine ⟨ds ++ ((if xs.isEmpty then [] else spaces indent) ++ itemChars indent xs ++ rest), ?_⟩
    simp [itemChars, hds]
  rw [itemChars_cons_cons, hcs]
  simp only [List.cons_append, List.append_assoc, hmore, readItems, hx, dropSpaces?_spaces]
  rw [← hmore, hxs, Option.map_some]

theorem readEntries_last {fuel : Nat} {e : String × Json}
    (he : readEntry (readNode fuel) indent (entryChars indent [e] ++ rest) = some (e, rest))
    (hrest : Outside indent rest) :
    readEntries (fuel + 1) indent (entryChars indent [e] ++ rest) = some ([e], rest) := by
  rw [readEntries, he]
  rcases dropSpaces?_outside hrest with h | h <;> simp [h]

theorem readEntries_cons {fuel : Nat} {e f : String × Json} {es : List (String × Json)}
    (he : readEntry (readNode fuel) indent (entryChars indent [e] ++
      (spaces indent ++ (entryChars indent (f :: es) ++ rest))) =
        some (e, spaces indent ++ (entryChars indent (f :: es) ++ rest)))
    (hes : readEntries fuel indent (entryChars indent (f :: es) ++ rest) = some (f :: es, rest)) :
    readEntries (fuel + 1) indent (entryChars indent (e :: f :: es) ++ rest) =
      some (e :: f :: es, rest) := by
  obtain ⟨c, cs, hcs, -, -⟩ := head_entryChars indent f.1 f.2 es
  rw [entryChars_cons_cons, List.append_assoc, List.append_assoc, readEntries, he]
  simp only [dropSpaces?_spaces]
  rw [hcs] at hes ⊢
  simp only [List.cons_append] at hes ⊢
  rw [hes, Option.map_some]

/-- Lists and maps are read back whole, up to where no further item or entry stands. -/
def ReadsItems (indent : Nat) (xs : List Json) : Prop :=
  ∀ fuel rest, sizeOf xs ≤ fuel → Outside (indent + step) rest → NoItem indent rest →
    readItems fuel indent (itemChars indent xs ++ rest) = some (xs, rest)

def ReadsEntries (indent : Nat) (es : List (String × Json)) : Prop :=
  ∀ fuel rest, sizeOf es ≤ fuel → Outside indent rest →
    readEntries fuel indent (entryChars indent es ++ rest) = some (es, rest)

theorem besideMark_blank (indent : Nat) (x : Json) : ∃ cs, besideMark indent x = ' ' :: cs := by
  unfold besideMark
  split <;> exact ⟨_, rfl⟩

theorem ReadsItems.inline {n : Nat} {x : Json} {xs : List Json}
    (h : ReadsItems n (x :: xs)) : Inline n (.arr (x :: xs)) (itemChars n (x :: xs)) := by
  intro fuel rest hf hrest
  obtain ⟨fuel, rfl⟩ := fuel_pos hf
  apply readNode_items (by simp) _ (besideMark_blank n)
  apply h fuel rest _ (hrest.mono (by simp)) hrest.noItem
  simp at hf ⊢
  omega

theorem ReadsEntries.inline {n : Nat} {e : String × Json} {es : List (String × Json)}
    (h : ReadsEntries n (e :: es)) : Inline n (.obj (e :: es)) (entryChars n (e :: es)) := by
  intro fuel rest hf hrest
  obtain ⟨fuel, rfl⟩ := fuel_pos hf
  apply readNode_entries (by simp)
  apply h fuel rest _ hrest
  simp at hf ⊢
  omega

theorem ReadsItems.under {indent : Nat} {x : Json} {xs : List Json}
    (h : ReadsItems indent (x :: xs)) : Under indent (.arr (x :: xs)) := by
  intro fuel rest hf hrest hno
  obtain ⟨fuel, rfl⟩ := fuel_pos hf
  obtain ⟨more, hmore⟩ : ∃ more, itemChars indent (x :: xs) ++ rest = '-' :: more := by
    rw [itemChars]
    exact ⟨_, rfl⟩
  have hitems : readItems fuel indent (itemChars indent (x :: xs) ++ rest) =
      some (x :: xs, rest) := by
    apply h fuel rest _ (hrest.mono (by simp [step])) hno
    simp at hf ⊢
    omega
  have hnode := readNode_items (by simp) hitems (besideMark_blank indent)
  rw [hmore] at hnode
  simp only [underKey, List.cons_append, List.append_assoc, readUnder, hmore, dropSpaces?_spaces]
  exact hnode

theorem ReadsEntries.under {indent : Nat} {e : String × Json} {es : List (String × Json)}
    (h : ReadsEntries (indent + step) (e :: es)) : Under indent (.obj (e :: es)) := by
  intro fuel rest hf hrest _
  simp only [underKey, List.cons_append, List.append_assoc, readUnder, dropSpaces?_step]
  exact h.inline fuel rest hf (hrest.mono (by simp [step]))

theorem readsEntry {fuel : Nat} {k : String} {x : Json} (hf : sizeOf x ≤ fuel)
    (hunder : Under indent x)
    (hbeside : ∃ cs, besideMark indent x = ' ' :: cs ∧ Inline (indent + step) x cs)
    (hrest : Outside (indent + 1) rest) (hno : NoItem indent rest) :
    readEntry (readNode fuel) indent (entryChars indent [(k, x)] ++ rest) =
      some ((k, x), rest) := by
  cases hk : isSimpleKey k with
  | true => exact readEntry_simple hk (hunder fuel rest hf hrest hno)
  | false =>
    obtain ⟨cs, hcs, hinline⟩ := hbeside
    exact readEntry_marked hk hcs (hinline fuel rest hf (hrest.mono (by simp [step])))

mutual

theorem readNode_besideMark (indent : Nat) : ∀ x, Legible x →
    ∃ cs, besideMark indent x = ' ' :: cs ∧ Inline (indent + step) x cs
  | .null, _ => ⟨_, rfl, inline_null _⟩
  | .bool b, _ => ⟨_, rfl, inline_bool _ b⟩
  | .num _, h => ⟨_, rfl, inline_number h _⟩
  | .str s, _ => ⟨_, rfl, inline_string (Nat.succ_pos _) s⟩
  | .arr [], _ => ⟨_, rfl, inline_emptyList _⟩
  | .arr (x :: xs), h =>
    ⟨_, rfl, (readItems_itemChars (indent + step) (x :: xs) h (by simp)).inline⟩
  | .obj [], _ => ⟨_, rfl, inline_emptyMap _⟩
  | .obj (e :: es), h =>
    ⟨_, rfl, (readEntries_entryChars (indent + step) (e :: es) h (by simp)).inline⟩

theorem readUnder_underKey (indent : Nat) : ∀ x, Legible x → Under indent x
  | .null, _ => (inline_null _).under rfl
  | .bool b, _ => (inline_bool _ b).under rfl
  | .num _, h => (inline_number h _).under rfl
  | .str s, _ => (inline_string (Nat.succ_pos _) s).under rfl
  | .arr [], _ => (inline_emptyList _).under rfl
  | .arr (x :: xs), h => (readItems_itemChars indent (x :: xs) h (by simp)).under
  | .obj [], _ => (inline_emptyMap _).under rfl
  | .obj (e :: es), h => (readEntries_entryChars (indent + step) (e :: es) h (by simp)).under

theorem readItems_itemChars (indent : Nat) : ∀ xs, LegibleItems xs → xs ≠ [] → ReadsItems indent xs
  | [x], h, _ => by
    intro fuel rest hf hrest hno
    obtain ⟨cs, hcs, hx⟩ := readNode_besideMark indent x h.1
    obtain ⟨fuel, rfl, hf, -⟩ := fuel_cons hf
    exact readItems_last hcs (hx fuel rest hf hrest) hno
  | x :: y :: xs, h, _ => by
    intro fuel rest hf hrest hno
    obtain ⟨cs, hcs, hx⟩ := readNode_besideMark indent x h.1
    obtain ⟨ds, hds⟩ := besideMark_blank indent y
    obtain ⟨fuel, rfl, hf, hfs⟩ := fuel_cons hf
    apply readItems_cons hcs hds
    · intro more
      exact hx fuel _ hf (outside_item indent more)
    · exact readItems_itemChars indent (y :: xs) h.2 (by simp) fuel rest hfs hrest hno

theorem readEntries_entryChars (indent : Nat) :
    ∀ es, LegibleEntries es → es ≠ [] → ReadsEntries indent es
  | [(k, x)], h, _ => by
    intro fuel rest hf hrest
    obtain ⟨fuel, rfl, hf, -⟩ := fuel_cons hf
    apply readEntries_last _ hrest
    exact readsEntry ((sizeOf_value_le k x).trans hf) (readUnder_underKey indent x h.1)
      (readNode_besideMark indent x h.1) (hrest.mono (by simp)) hrest.noItem
  | (k, x) :: f :: es, h, _ => by
    intro fuel rest hf hrest
    obtain ⟨fuel, rfl, hf, hfs⟩ := fuel_cons hf
    apply readEntries_cons
    · exact readsEntry ((sizeOf_value_le k x).trans hf) (readUnder_underKey indent x h.1)
        (readNode_besideMark indent x h.1) (outside_entryChars (by simp) f es rest)
        (noItem_entryChars indent f es rest)
    · exact readEntries_entryChars indent (f :: es) h.2 (by simp) fuel rest hfs hrest

end

theorem entryChars_injective {es fs : List (String × Json)} (hes : LegibleEntries es)
    (hfs : LegibleEntries fs) (hne : es ≠ []) (hne' : fs ≠ [])
    (h : entryChars 0 es = entryChars 0 fs) : es = fs := by
  have he := readEntries_entryChars 0 es hes hne (sizeOf es + sizeOf fs) [] (by omega) .nothing
  have hf := readEntries_entryChars 0 fs hfs hne' (sizeOf es + sizeOf fs) [] (by omega) .nothing
  rw [h, hf] at he
  simpa using he.symm

end WorkflowManifest.Yaml

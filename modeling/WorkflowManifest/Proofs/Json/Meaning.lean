import WorkflowManifest.Proofs.Json.Fits

namespace WorkflowManifest.Json

open Reader (numberKey)

mutual

/-- Entries are inserted in the order in which they are written. An object that begins with the key
of a held number has no other meaning, and none at all unless it has the text of a number. -/
inductive Means : Json → Json → Prop
  | null : Means .null .null
  | bool (b : Bool) : Means (.bool b) (.bool b)
  | num (n : Number) : Means (.num n) (.num n)
  | str (s : String) : Means (.str s) (.str s)
  | arr {xs ys : List Json} (h : MeansItems xs ys) : Means (.arr xs) (.arr ys)
  | obj {es fs : List (String × Json)} (hhead : (Entries.keys es).head? ≠ some numberKey)
      (h : MeansEntries es fs) : Means (.obj es) (.obj (Entries.insertAll [] fs))
  | held {s : String} {n : Number} (h : Number.read s.toList = .ok n) :
      Means (.obj [(numberKey, .str s)]) (.num n)

inductive MeansItems : List Json → List Json → Prop
  | nil : MeansItems [] []
  | cons {x y : Json} {xs ys : List Json} (h : Means x y) (hrest : MeansItems xs ys) :
      MeansItems (x :: xs) (y :: ys)

inductive MeansEntries : List (String × Json) → List (String × Json) → Prop
  | nil : MeansEntries [] []
  | cons {k : String} {x y : Json} {es fs : List (String × Json)} (h : Means x y)
      (hrest : MeansEntries es fs) : MeansEntries ((k, x) :: es) ((k, y) :: fs)

end

mutual

def keysWithin : Json → List String
  | .null | .bool _ | .num _ | .str _ => []
  | .arr xs => itemKeys xs
  | .obj es => entryKeys es

def itemKeys : List Json → List String
  | [] => []
  | x :: xs => keysWithin x ++ itemKeys xs

def entryKeys : List (String × Json) → List String
  | [] => []
  | (k, x) :: es => k :: keysWithin x ++ entryKeys es

end

mutual

def merged : Json → Json
  | .arr xs => .arr (mergedItems xs)
  | .obj es => .obj (Entries.collected (mergedEntries es))
  | j => j

def mergedItems : List Json → List Json
  | [] => []
  | x :: xs => merged x :: mergedItems xs

def mergedEntries : List (String × Json) → List (String × Json)
  | [] => []
  | (k, x) :: es => (k, merged x) :: mergedEntries es

end

theorem keys_subset_entryKeys (es : List (String × Json)) : Entries.keys es ⊆ entryKeys es := by
  induction es with
  | nil => exact List.Subset.refl []
  | cons e es ih =>
    rw [Entries.keys_cons, entryKeys, List.cons_append]
    exact List.cons_subset_cons e.1 (List.subset_append_of_subset_right _ ih)

theorem head?_ne_numberKey {es : List (String × Json)} (h : numberKey ∉ entryKeys es) :
    (Entries.keys es).head? ≠ some numberKey :=
  fun hhead => h (keys_subset_entryKeys es (List.mem_of_head? hhead))

section Merged

mutual

theorem means_merged : ∀ (j : Json), numberKey ∉ keysWithin j → Means j (merged j)
  | .null, _ => .null
  | .bool b, _ => .bool b
  | .num n, _ => .num n
  | .str s, _ => .str s
  | .arr xs, h => .arr (meansItems_merged xs h)
  | .obj es, h => by
    have hes := Means.obj (head?_ne_numberKey h) (meansEntries_merged es h)
    rwa [Entries.insertAll_nil] at hes

theorem meansItems_merged : ∀ (xs : List Json), numberKey ∉ itemKeys xs →
    MeansItems xs (mergedItems xs)
  | [], _ => .nil
  | x :: xs, h => by
    rw [itemKeys, List.mem_append, not_or] at h
    exact .cons (means_merged x h.1) (meansItems_merged xs h.2)

theorem meansEntries_merged : ∀ (es : List (String × Json)), numberKey ∉ entryKeys es →
    MeansEntries es (mergedEntries es)
  | [], _ => .nil
  | (k, x) :: es, h => by
    rw [entryKeys, List.cons_append, List.mem_cons, List.mem_append, not_or, not_or] at h
    exact .cons (means_merged x h.2.1) (meansEntries_merged es h.2.2)

end

mutual

theorem Means.eq_merged : ∀ {i j : Json}, Means i j → numberKey ∉ keysWithin i → j = merged i
  | _, _, .null, _ | _, _, .bool _, _ | _, _, .num _, _ | _, _, .str _, _ => rfl
  | _, _, .arr h, hkeys => by rw [merged, h.eq_merged hkeys]
  | _, _, .obj _ h, hkeys => by rw [merged, h.eq_merged hkeys, Entries.insertAll_nil]
  | _, _, .held _, hkeys => absurd List.mem_cons_self hkeys

theorem MeansItems.eq_merged : ∀ {xs ys : List Json}, MeansItems xs ys → numberKey ∉ itemKeys xs →
    ys = mergedItems xs
  | _, _, .nil, _ => rfl
  | _, _, .cons h hrest, hkeys => by
    rw [itemKeys, List.mem_append, not_or] at hkeys
    rw [mergedItems, h.eq_merged hkeys.1, hrest.eq_merged hkeys.2]

theorem MeansEntries.eq_merged : ∀ {es fs : List (String × Json)}, MeansEntries es fs →
    numberKey ∉ entryKeys es → fs = mergedEntries es
  | _, _, .nil, _ => rfl
  | _, _, .cons h hrest, hkeys => by
    rw [entryKeys, List.cons_append, List.mem_cons, List.mem_append, not_or, not_or] at hkeys
    rw [mergedEntries, h.eq_merged hkeys.2.1, hrest.eq_merged hkeys.2.2]

end

end Merged

section Fits

mutual

theorem Fits.means : ∀ {room : Nat} (j : Json), Fits room j → Means j j
  | _, .null, _ => .null
  | _, .bool b, _ => .bool b
  | _, .num n, _ => .num n
  | _, .str s, _ => .str s
  | 0, .arr _, h | 0, .obj _, h => by simp [Fits] at h
  | _ + 1, .arr xs, h => by
    rw [Fits] at h
    exact .arr (FitsItems.means xs h)
  | _ + 1, .obj es, h => by
    rw [Fits] at h
    obtain ⟨hnodup, hhead, h⟩ := h
    have hes := Means.obj hhead (FitsEntries.means es h)
    rwa [Entries.insertAll_of_nodup [] es hnodup] at hes

theorem FitsItems.means : ∀ {room : Nat} (xs : List Json), FitsItems room xs → MeansItems xs xs
  | _, [], _ => .nil
  | _, x :: xs, h => .cons (Fits.means x h.1) (FitsItems.means xs h.2)

theorem FitsEntries.means : ∀ {room : Nat} (es : List (String × Json)),
    FitsEntries room es → MeansEntries es es
  | _, [], _ => .nil
  | _, (_, x) :: es, h => .cons (Fits.means x h.1) (FitsEntries.means es h.2)

end

end Fits

end WorkflowManifest.Json

import WorkflowManifest.Proofs.Convert.Order
import WorkflowManifest.Proofs.Document.Equality

namespace WorkflowManifest

namespace Entries

variable {κ α : Type}

/-- What is found under a key, and what is left once it has been removed. -/
inductive Removal (key : κ) : Entries κ α → Option α → Entries κ α → Prop
  | absent {es : Entries κ α} (h : key ∉ keys es) : Removal key es none es
  | last (v : α) (es : Entries κ α) : Removal key (es ++ [(key, v)]) (some v) es
  | hole (before : Entries κ α) (v : α) (middle : Entries κ α) (e : κ × α) :
      Removal key (before ++ (key, v) :: middle ++ [e]) (some v) (before ++ e :: middle)

theorem Removal.cons {key k : κ} {x : Option α} {es fs : Entries κ α} (h : Removal key es x fs)
    (hk : k ≠ key) (w : α) : Removal key ((k, w) :: es) x ((k, w) :: fs) := by
  cases h with
  | absent h =>
    apply Removal.absent
    rw [keys_cons, List.mem_cons, not_or]
    exact ⟨hk.symm, h⟩
  | last v es => exact .last v ((k, w) :: fs)
  | hole before v middle e => exact .hole ((k, w) :: before) v middle e

theorem Removal.length {key : κ} {x : Option α} {es fs : Entries κ α} (h : Removal key es x fs) :
    es.length = fs.length + if x.isSome then 1 else 0 := by
  cases h with
  | absent h => rfl
  | last v => simp
  | hole before v middle e => simp [Nat.add_assoc]

theorem rotate_concat (es : Entries κ α) (e : κ × α) : rotate (es ++ [e]) = e :: es := by
  rw [rotate, List.getLast?_concat, List.dropLast_concat]

theorem removal_rotate (key : κ) (v : α) (es : Entries κ α) :
    Removal key ((key, v) :: es) (some v) (rotate es) := by
  obtain rfl | ⟨fs, e, rfl⟩ := List.eq_nil_or_concat' es
  · exact .last v []
  · rw [rotate_concat]
    exact .hole [] v fs e

variable [DecidableEq κ]

theorem removal_erase (key : κ) (es : Entries κ α) :
    Removal key es (find? key es) (erase key es) := by
  induction es with
  | nil => exact .absent List.not_mem_nil
  | cons e es ih =>
    obtain ⟨k, v⟩ := e
    rw [find?, erase]
    split
    next hk =>
      rw [hk]
      exact removal_rotate key v es
    next hk => exact ih.cons hk v

end Entries

namespace Document

structure Takes (d : Document) (key : String) (x : Option Json) (e : Document) : Prop where
  value : ∀ v, x = some v ↔ (key, v) ∈ d.entries
  found : ∀ l, e.find? l = if l = key then none else d.find? l
  places : Entries.Removal key d.entries x e.entries
  size : d.size = e.size + if x.isSome then 1 else 0

def takeAll (d : Document) : List String → List (String × Option Json) × Document
  | [] => ([], d)
  | key :: keys =>
    let (x, e) := d.take key
    let (xs, f) := e.takeAll keys
    ((key, x) :: xs, f)

variable {d : Document}

theorem take_takes (hd : (Entries.keys d.entries).Nodup) (key : String) :
    Takes d key (d.take key).1 (d.take key).2 where
  value := fun _ => Entries.find?_eq_some_iff hd
  found := find?_take hd key
  places := Entries.removal_erase key d.entries
  size := (Entries.removal_erase key d.entries).length

theorem wellFormed_takeAll (hd : (Json.obj d.entries).WellFormed) (ks : List String) :
    (Json.obj (d.takeAll ks).2.entries).WellFormed := by
  induction ks generalizing d with
  | nil => exact hd
  | cons k ks ih => exact ih (wellFormed_take hd k)

theorem find?_takeAll (hd : (Json.obj d.entries).WellFormed) (ks : List String) (l : String) :
    (d.takeAll ks).2.find? l = if l ∈ ks then none else d.find? l := by
  induction ks generalizing d with
  | nil => simp [takeAll]
  | cons k ks ih =>
    calc
      (d.takeAll (k :: ks)).2.find? l = if l ∈ ks then none else (d.take k).2.find? l :=
        ih (wellFormed_take hd k)
      _ = if l ∈ k :: ks then none else d.find? l := by
        rw [find?_take (nodup_keys hd)]
        by_cases hk : l = k <;> simp [hk]

theorem takeAll_fst (hd : (Json.obj d.entries).WellFormed) {ks : List String} (hks : ks.Nodup) :
    (d.takeAll ks).1 = ks.map fun k => (k, d.find? k) := by
  induction ks generalizing d with
  | nil => rfl
  | cons k ks ih =>
    obtain ⟨hk, hks⟩ := List.nodup_cons.1 hks
    have hrest : (((d.take k).2).takeAll ks).1 = ks.map fun l => (l, d.find? l) := by
      rw [ih (wellFormed_take hd k) hks]
      apply List.map_congr_left
      intro l hl
      rw [find?_take (nodup_keys hd), if_neg (ne_of_mem_of_not_mem hl hk)]
    calc
      (d.takeAll (k :: ks)).1 = (k, d.find? k) :: ((d.take k).2.takeAll ks).1 := rfl
      _ = (k :: ks).map fun k => (k, d.find? k) := by rw [hrest, List.map_cons]

theorem takeAll_same (hd : (Json.obj d.entries).WellFormed) {ks ls : List String}
    (h : ∀ k, k ∈ ks ↔ k ∈ ls) : (d.takeAll ks).2.same (d.takeAll ls).2 := by
  have hks := wellFormed_takeAll hd ks
  rw [same_iff (nodup_keys hks) (nodup_keys (wellFormed_takeAll hd ls))]
  intro l
  have hfind : (d.takeAll ks).2.find? l = (d.takeAll ls).2.find? l := by
    simp only [find?_takeAll hd, h]
  rw [← hfind]
  exact .refl fun v hv => wellFormed_of_find? hks hv

theorem take_takeAll (hd : (Json.obj d.entries).WellFormed) {ks : List String} {key : String}
    (hkey : key ∈ ks) (later : List String) :
    ((d.takeAll ks).2.takeAll later).2.take key = (none, ((d.takeAll ks).2.takeAll later).2) := by
  have hnone : ((d.takeAll ks).2.takeAll later).2.find? key = none := by
    rw [find?_takeAll (wellFormed_takeAll hd ks), find?_takeAll hd, if_pos hkey, ite_self]
  exact Prod.ext hnone (take_absent hnone)

/-- Each key taken from a document is removed from it as from a finite map, but for the last entry,
which comes to stand where the removed one stood. Several keys may be taken in any order: each
gives the same, what they leave is equal, and however many are taken later, none of them gives
anything again. -/
theorem take_in_any_order (hd : (Json.obj d.entries).WellFormed) :
    (∀ key, Takes d key (d.take key).1 (d.take key).2) ∧
      ∀ ks ls : List String, ks.Nodup → ks.Perm ls →
        (d.takeAll ks).1 = ks.map (fun key => (key, (d.take key).1)) ∧
          (d.takeAll ks).1.Perm (d.takeAll ls).1 ∧
          (d.takeAll ks).2.same (d.takeAll ls).2 ∧
          ∀ key ∈ ks, ∀ later, ((d.takeAll ks).2.takeAll later).2.take key =
            (none, ((d.takeAll ks).2.takeAll later).2) := by
  refine ⟨take_takes (nodup_keys hd), ?_⟩
  intro ks ls hks hperm
  have hfst := takeAll_fst hd hks
  refine ⟨hfst, ?_, takeAll_same hd fun k => hperm.mem_iff, ?_⟩
  · rw [hfst, takeAll_fst hd (hperm.nodup_iff.1 hks)]
    exact hperm.map _
  · intro key hkey later
    exact take_takeAll hd hkey later

def lettered : Document :=
  ofEntries [("a", .null), ("b", .bool true), ("c", .arr []), ("d", .obj []), ("e", .str "")]

theorem take_in_any_order_lettered :
    (Json.obj lettered.entries).WellFormed ∧
      (lettered.takeAll ["a", "b"]).2.text = "\x7b\"e\":\"\",\"d\":\x7b\x7d,\"c\":[]\x7d" ∧
      (lettered.takeAll ["b", "a"]).2.text = "\x7b\"d\":\x7b\x7d,\"e\":\"\",\"c\":[]\x7d" ∧
      (lettered.takeAll ["a", "b"]).2.same (lettered.takeAll ["b", "a"]).2 ∧
      (((lettered.takeAll ["a", "b"]).2.takeAll ["e"]).2.take "a").1 = none := by
  have hwf : (Json.obj lettered.entries).WellFormed := by
    simp [lettered, ofEntries, Json.WellFormed, Json.WellFormedItems, Json.WellFormedEntries,
      Entries.keys]
  obtain ⟨-, -, hsame, hnone⟩ :=
    (take_in_any_order hwf).2 ["a", "b"] ["b", "a"] (by decide) (.swap ..)
  refine ⟨hwf, by decide +kernel, by decide +kernel, hsame, ?_⟩
  rw [hnone "a" (List.mem_cons_self ..) ["e"]]

end Document

end WorkflowManifest

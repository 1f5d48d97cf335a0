import WorkflowManifest.Proofs.Json.Exact
import WorkflowManifest.Proofs.Json.WrittenNumber

namespace WorkflowManifest.Json

mutual

/-- The same tree node by node, with the keys of an object in the same order. -/
def Alike : Json → Json → Prop
  | .null, .null => True
  | .bool a, .bool b => a = b
  | .num m, .num n => m.Alike n
  | .str s, .str t => s = t
  | .arr xs, .arr ys => AlikeItems xs ys
  | .obj es, .obj fs => AlikeEntries es fs
  | _, _ => False

def AlikeItems : List Json → List Json → Prop
  | [], [] => True
  | x :: xs, y :: ys => Alike x y ∧ AlikeItems xs ys
  | _, _ => False

def AlikeEntries : List (String × Json) → List (String × Json) → Prop
  | [], [] => True
  | (k, x) :: es, (l, y) :: fs => k = l ∧ Alike x y ∧ AlikeEntries es fs
  | _, _ => False

end

theorem exact_num_ok {n : Number} {y : Json} :
    exact (.num n) = .ok y ↔ ∃ m, n.exact = .ok m ∧ y = .num m := by
  rw [exact, map_eq_ok_iff]

theorem source_of_exact {y z : Json} (h : exact y = .ok z) :
    match z with
    | .null => y = .null
    | .bool b => y = .bool b
    | .num m => ∃ n, y = .num n ∧ n.exact = .ok m
    | .str s => y = .str s
    | .arr zs => ∃ ys, y = .arr ys ∧ exactItems ys = .ok zs
    | .obj gs => ∃ fs, y = .obj fs ∧ exactEntries fs = .ok gs := by
  cases y with
  | null =>
    obtain rfl : Json.null = z := by simpa [exact] using h
    rfl
  | bool b =>
    obtain rfl : Json.bool b = z := by simpa [exact] using h
    rfl
  | num n =>
    obtain ⟨m, hm, rfl⟩ := exact_num_ok.1 h
    exact ⟨n, rfl, hm⟩
  | str s =>
    obtain rfl : Json.str s = z := by simpa [exact] using h
    rfl
  | arr ys =>
    obtain ⟨zs, hzs, rfl⟩ := exact_arr_ok.1 h
    exact ⟨ys, rfl, hzs⟩
  | obj fs =>
    obtain ⟨gs, hgs, rfl⟩ := exact_obj_ok.1 h
    exact ⟨fs, rfl, hgs⟩

mutual

theorem alike_of_exact : ∀ {x y z : Json}, exact x = .ok z → exact y = .ok z → Alike x y
  | x, y, .null, hx, hy => by
    rw [source_of_exact hx, source_of_exact hy]
    trivial
  | x, y, .bool b, hx, hy => by
    rw [source_of_exact hx, source_of_exact hy]
    rfl
  | x, y, .num m, hx, hy => by
    obtain ⟨n, rfl, hn⟩ := source_of_exact hx
    obtain ⟨n', rfl, hn'⟩ := source_of_exact hy
    exact (Number.alike_of_exact hn).trans (Number.alike_of_exact hn').symm
  | x, y, .str s, hx, hy => by
    rw [source_of_exact hx, source_of_exact hy]
    rfl
  | x, y, .arr zs, hx, hy => by
    obtain ⟨xs, rfl, hxs⟩ := source_of_exact hx
    obtain ⟨ys, rfl, hys⟩ := source_of_exact hy
    exact alikeItems_of_exact hxs hys
  | x, y, .obj gs, hx, hy => by
    obtain ⟨es, rfl, hes⟩ := source_of_exact hx
    obtain ⟨fs, rfl, hfs⟩ := source_of_exact hy
    exact alikeEntries_of_exact hes hfs

theorem alikeItems_of_exact : ∀ {xs ys zs : List Json},
    exactItems xs = .ok zs → exactItems ys = .ok zs → AlikeItems xs ys
  | [], [], _, _, _ => trivial
  | [], y :: ys, zs, hx, hy => by
    obtain ⟨_, _, _, _, rfl⟩ := exactItems_cons_ok.1 hy
    simp [exactItems] at hx
  | x :: xs, [], zs, hx, hy => by
    obtain ⟨_, _, _, _, rfl⟩ := exactItems_cons_ok.1 hx
    simp [exactItems] at hy
  | x :: xs, y :: ys, zs, hx, hy => by
    obtain ⟨z, zs, hz, hzs, rfl⟩ := exactItems_cons_ok.1 hx
    obtain ⟨z', zs', hz', hzs', heq⟩ := exactItems_cons_ok.1 hy
    obtain ⟨rfl, rfl⟩ := List.cons.inj heq
    exact ⟨alike_of_exact hz hz', alikeItems_of_exact hzs hzs'⟩

theorem alikeEntries_of_exact : ∀ {es fs gs : List (String × Json)},
    exactEntries es = .ok gs → exactEntries fs = .ok gs → AlikeEntries es fs
  | [], [], _, _, _ => trivial
  | [], (_, _) :: fs, gs, hx, hy => by
    obtain ⟨_, _, _, _, rfl⟩ := exactEntries_cons_ok.1 hy
    simp [exactEntries] at hx
  | (_, _) :: es, [], gs, hx, hy => by
    obtain ⟨_, _, _, _, rfl⟩ := exactEntries_cons_ok.1 hx
    simp [exactEntries] at hy
  | (k, x) :: es, (l, y) :: fs, gs, hx, hy => by
    obtain ⟨z, gs, hz, hgs, rfl⟩ := exactEntries_cons_ok.1 hx
    obtain ⟨z', gs', hz', hgs', heq⟩ := exactEntries_cons_ok.1 hy
    obtain ⟨hhead, rfl⟩ := List.cons.inj heq
    obtain ⟨rfl, rfl⟩ := Prod.mk.inj hhead
    exact ⟨rfl, alike_of_exact hz hz', alikeEntries_of_exact hgs hgs'⟩

end

end WorkflowManifest.Json

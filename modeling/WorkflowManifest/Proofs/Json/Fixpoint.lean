import WorkflowManifest.Proofs.Json.Alike
import WorkflowManifest.Proofs.Json.Fits

namespace WorkflowManifest.Json

namespace Number

theorem unsignedZero_unsignedZero (n : Number) : n.unsignedZero.unsignedZero = n.unsignedZero := by
  by_cases h : n.whole = .zero <;> simp [unsignedZero, h]

theorem magnitude?_unsignedZero (n : Number) : n.unsignedZero.magnitude? = n.magnitude? := by
  unfold unsignedZero
  split <;> rfl

theorem exact_of_exact {n m : Number} (h : n.exact = .ok m) : m.exact = .ok m := by
  cases writes_of_exact h with
  | integer hint hwithin =>
    rw [exact_eq, isInteger_unsignedZero, wholeValue_unsignedZero, unsignedZero_unsignedZero,
      if_pos hint, if_pos hwithin]
  | double hint hx =>
    obtain ⟨hc, hs⟩ := Binary64.ofDecimal?_canonical hx
    rw [exact_eq, isInteger_ofBinary64 _ hc hs, magnitude?_ofBinary64 _ hc hs, negative_ofBinary64]
    rfl

theorem magnitude?_of_exact {n m : Number} (h : n.exact = .ok m) :
    m.magnitude? = n.magnitude? := by
  cases writes_of_exact h with
  | integer _ _ => exact magnitude?_unsignedZero n
  | double _ hx =>
    obtain ⟨hc, hs⟩ := Binary64.ofDecimal?_canonical hx
    rw [magnitude?_ofBinary64 _ hc hs, hx]

end Number

mutual

theorem exact_of_exact : ∀ {x y : Json}, exact x = .ok y → exact y = .ok y
  | _, .null, _ => by simp [exact]
  | _, .bool b, _ => exact_bool b
  | _, .str s, _ => exact_str s
  | x, .num m, h => by
    obtain ⟨n, rfl, hn⟩ := source_of_exact h
    exact exact_num_ok.2 ⟨m, Number.exact_of_exact hn, rfl⟩
  | x, .arr ys, h => by
    obtain ⟨xs, rfl, hxs⟩ := source_of_exact h
    exact exact_arr_ok.2 ⟨ys, exactItems_of_exact hxs, rfl⟩
  | x, .obj fs, h => by
    obtain ⟨es, rfl, hes⟩ := source_of_exact h
    exact exact_obj_ok.2 ⟨fs, exactEntries_of_exact hes, rfl⟩

theorem exactItems_of_exact : ∀ {xs ys : List Json},
    exactItems xs = .ok ys → exactItems ys = .ok ys
  | _, [], _ => by simp [exactItems]
  | [], y :: ys, h => by simp [exactItems] at h
  | x :: xs, y :: ys, h => by
    obtain ⟨z, zs, hz, hzs, heq⟩ := exactItems_cons_ok.1 h
    obtain ⟨rfl, rfl⟩ := List.cons.inj heq
    exact exactItems_cons_ok.2 ⟨y, ys, exact_of_exact hz, exactItems_of_exact hzs, rfl⟩

theorem exactEntries_of_exact : ∀ {es fs : List (String × Json)},
    exactEntries es = .ok fs → exactEntries fs = .ok fs
  | _, [], _ => by simp [exactEntries]
  | [], (l, y) :: fs, h => by simp [exactEntries] at h
  | (k, x) :: es, (l, y) :: fs, h => by
    obtain ⟨z, gs, hz, hgs, heq⟩ := exactEntries_cons_ok.1 h
    obtain ⟨hhead, rfl⟩ := List.cons.inj heq
    obtain ⟨rfl, rfl⟩ := Prod.mk.inj hhead
    exact exactEntries_cons_ok.2 ⟨y, fs, exact_of_exact hz, exactEntries_of_exact hgs, rfl⟩

end

theorem keys_of_exact {es fs : List (String × Json)} (h : exactEntries es = .ok fs) :
    Entries.keys fs = Entries.keys es := by
  induction es generalizing fs with
  | nil =>
    obtain rfl : [] = fs := by simpa [exactEntries] using h
    rfl
  | cons e es ih =>
    obtain ⟨y, gs, -, hgs, rfl⟩ := exactEntries_cons_ok.1 h
    rw [Entries.keys_cons, ih hgs]
    rfl

mutual

theorem Fits.of_exact : ∀ {room : Nat} {x y : Json}, exact x = .ok y → Fits room x → Fits room y
  | _, _, .null, _, _ | _, _, .bool _, _, _ | _, _, .str _, _, _ | _, _, .num _, _, _ => by
    simp [Fits]
  | room, x, .arr ys, h, hx => by
    obtain ⟨xs, rfl, hxs⟩ := source_of_exact h
    cases room with
    | zero => simp [Fits] at hx
    | succ room =>
      rw [Fits] at hx ⊢
      exact FitsItems.of_exact hxs hx
  | room, x, .obj fs, h, hx => by
    obtain ⟨es, rfl, hes⟩ := source_of_exact h
    cases room with
    | zero => simp [Fits] at hx
    | succ room =>
      rw [Fits] at hx ⊢
      rw [keys_of_exact hes]
      exact ⟨hx.1, hx.2.1, FitsEntries.of_exact hes hx.2.2⟩

theorem FitsItems.of_exact : ∀ {room : Nat} {xs ys : List Json},
    exactItems xs = .ok ys → FitsItems room xs → FitsItems room ys
  | _, _, [], _, _ => by simp [FitsItems]
  | _, [], y :: ys, h, _ => by simp [exactItems] at h
  | room, x :: xs, y :: ys, h, hfits => by
    obtain ⟨z, zs, hz, hzs, heq⟩ := exactItems_cons_ok.1 h
    obtain ⟨rfl, rfl⟩ := List.cons.inj heq
    rw [FitsItems] at hfits ⊢
    exact ⟨Fits.of_exact hz hfits.1, FitsItems.of_exact hzs hfits.2⟩

theorem FitsEntries.of_exact : ∀ {room : Nat} {es fs : List (String × Json)},
    exactEntries es = .ok fs → FitsEntries room es → FitsEntries room fs
  | _, _, [], _, _ => by simp [FitsEntries]
  | _, [], (l, y) :: fs, h, _ => by simp [exactEntries] at h
  | room, (k, x) :: es, (l, y) :: fs, h, hfits => by
    obtain ⟨z, gs, hz, hgs, heq⟩ := exactEntries_cons_ok.1 h
    obtain ⟨hhead, rfl⟩ := List.cons.inj heq
    obtain ⟨rfl, rfl⟩ := Prod.mk.inj hhead
    rw [FitsEntries] at hfits ⊢
    exact ⟨Fits.of_exact hz hfits.1, FitsEntries.of_exact hgs hfits.2⟩

end

theorem isEmpty_of_exact {xs ys : List Json} (h : exactItems xs = .ok ys) :
    ys.isEmpty = xs.isEmpty := by
  cases xs with
  | nil =>
    obtain rfl : [] = ys := by simpa [exactItems] using h
    rfl
  | cons x xs =>
    obtain ⟨y, zs, -, -, rfl⟩ := exactItems_cons_ok.1 h
    rfl

theorem isTruthy_of_exact {x y : Json} (h : exact x = .ok y) : isTruthy y = isTruthy x := by
  have hsource := source_of_exact h
  cases y with
  | null => rw [hsource]
  | bool b => rw [hsource]
  | str s => rw [hsource]
  | num m =>
    obtain ⟨n, rfl, hn⟩ := hsource
    simp only [isTruthy, Number.magnitude?_of_exact hn]
  | arr ys =>
    obtain ⟨xs, rfl, hxs⟩ := hsource
    simp only [isTruthy, isEmpty_of_exact hxs]
  | obj fs =>
    obtain ⟨es, rfl, hes⟩ := hsource
    have hkeys := congrArg List.isEmpty (keys_of_exact hes)
    simpa [isTruthy, Entries.keys] using hkeys

end WorkflowManifest.Json

import WorkflowManifest.Resource

namespace WorkflowManifest

theorem map_eq_ok_iff {ε α β : Type} {f : α → β} {r : Except ε α} {b : β} :
    r.map f = .ok b ↔ ∃ a, r = .ok a ∧ b = f a := by
  cases r <;> simp [Except.map, eq_comm]

theorem mapError_eq_ok_iff {ε ε' α : Type} {f : ε → ε'} {r : Except ε α} {a : α} :
    r.mapError f = .ok a ↔ r = .ok a := by
  constructor
  · intro h
    cases r <;> cases h
    rfl
  · rintro rfl
    rfl

theorem mapError_eq_error_iff {ε ε' α : Type} {f : ε → ε'} {r : Except ε α} {e' : ε'} :
    r.mapError f = .error e' ↔ ∃ e, r = .error e ∧ e' = f e := by
  constructor
  · intro h
    cases r <;> cases h
    exact ⟨_, rfl, rfl⟩
  · rintro ⟨e, rfl, rfl⟩
    rfl

theorem bind_eq_ok_iff {ε α β : Type} {r : Except ε α} {k : α → Except ε β} {b : β} :
    r >>= k = .ok b ↔ ∃ a, r = .ok a ∧ k a = .ok b := by
  cases r <;> simp [bind, Except.bind]

theorem bind_eq_error_iff {ε α β : Type} {r : Except ε α} {k : α → Except ε β} {e : ε} :
    r >>= k = .error e ↔ r = .error e ∨ ∃ a, r = .ok a ∧ k a = .error e := by
  cases r <;> simp [bind, Except.bind]

namespace Json

theorem exact_str (s : String) : exact (.str s) = .ok (.str s) := by simp [exact]

theorem exact_bool (b : Bool) : exact (.bool b) = .ok (.bool b) := by simp [exact]

theorem exact_arr_ok {xs : List Json} {y : Json} :
    exact (.arr xs) = .ok y ↔ ∃ ys, exactItems xs = .ok ys ∧ y = .arr ys := by
  rw [exact, map_eq_ok_iff]

theorem exact_obj_ok {es : List (String × Json)} {y : Json} :
    exact (.obj es) = .ok y ↔ ∃ fs, exactEntries es = .ok fs ∧ y = .obj fs := by
  rw [exact, map_eq_ok_iff]

theorem exactItems_cons_ok {x : Json} {xs ys : List Json} :
    exactItems (x :: xs) = .ok ys ↔
      ∃ y zs, exact x = .ok y ∧ exactItems xs = .ok zs ∧ ys = y :: zs := by
  cases hx : exact x <;> cases hxs : exactItems xs <;>
    simp [exactItems, hx, hxs, bind, Except.bind, pure, Except.pure, eq_comm]

theorem exactEntries_cons_ok {k : String} {x : Json} {es fs : List (String × Json)} :
    exactEntries ((k, x) :: es) = .ok fs ↔
      ∃ y gs, exact x = .ok y ∧ exactEntries es = .ok gs ∧ fs = (k, y) :: gs := by
  cases hx : exact x <;> cases hes : exactEntries es <;>
    simp [exactEntries, hx, hes, bind, Except.bind, pure, Except.pure, eq_comm]

theorem exactEntries_single_ok {k : String} {x : Json} {fs : List (String × Json)} :
    exactEntries [(k, x)] = .ok fs ↔ ∃ y, exact x = .ok y ∧ fs = [(k, y)] := by
  cases hx : exact x <;>
    simp [exactEntries, hx, bind, Except.bind, pure, Except.pure, eq_comm]

theorem exactEntries_append_ok {es fs gs : List (String × Json)} :
    exactEntries (es ++ fs) = .ok gs ↔
      ∃ es' fs', exactEntries es = .ok es' ∧ exactEntries fs = .ok fs' ∧ gs = es' ++ fs' := by
  induction es generalizing gs with
  | nil => simp [exactEntries]
  | cons e es ih =>
    obtain ⟨k, x⟩ := e
    simp only [List.cons_append, exactEntries_cons_ok, ih]
    constructor
    · rintro ⟨y, _, hy, ⟨es', fs', hes, hfs, rfl⟩, rfl⟩
      exact ⟨_, fs', ⟨y, es', hy, hes, rfl⟩, hfs, rfl⟩
    · rintro ⟨_, fs', ⟨y, es', hy, hes, rfl⟩, hfs, rfl⟩
      exact ⟨y, _, hy, ⟨es', fs', hes, hfs, rfl⟩, rfl⟩

end Json

namespace Resource

theorem written_ok {r : Resource} {es : List (String × Json)} (h : r.written = .ok es) :
    ∃ spec, es = [("apiVersion", .str apiVersion), ("kind", .str resourceKind),
      ("metadata", .obj [("name", .str r.name), ("namespace", .str r.inNamespace)]),
      ("spec", .obj (("active", .bool r.active) :: spec))] := by
  simp only [written, entries, headEntries, Json.exactEntries_cons_ok, Json.exact_obj_ok,
    Json.exact_str, Json.exact_bool, List.cons_append] at h
  simp only [Json.exactEntries, Except.ok.injEq] at h
  grind

end Resource

end WorkflowManifest

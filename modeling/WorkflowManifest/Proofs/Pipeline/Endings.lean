import WorkflowManifest.Pipeline

/-!
The ways a pipeline ends, whatever its stages do. The calls of the stages are written down, so that
an ending also says which of them were never made.
-/

namespace WorkflowManifest.Pipeline

/-- A stage may fail at any call, and what it did to its world stays done. -/
abbrev Stage (ε σ : Type) := ExceptT ε (StateM σ)

inductive Call (ι ο : Type) where
  | extract
  | transform (item : ι)
  | load (results : List ο)

variable {ε σ ι ο α β : Type}

def watch (call : Call ι ο) (s : Stage ε σ α) : Stage ε (σ × List (Call ι ο)) α :=
  fun (w, calls) => ((s w).1, ((s w).2, calls ++ [call]))

def watched (p : Pipeline (Stage ε σ) ι ο) : Pipeline (Stage ε (σ × List (Call ι ο))) ι ο where
  extract := watch .extract p.extract
  transform x := watch (.transform x) (p.transform x)
  load ys := watch (.load ys) (p.load ys)

def note (log : Event → σ → σ) (e : Event) : Stage ε σ Unit := fun w => (.ok (), log e w)

def logBeside (log : Event → σ → σ) (e : Event) : σ × List (Call ι ο) → σ × List (Call ι ο) :=
  fun (w, calls) => (log e w, calls)

/-- Items transformed in order, each in the world that the one before it left. -/
inductive Transforms (f : ι → Stage ε σ ο) : σ → List ι → List ο → σ → Prop
  | nil : Transforms f w [] [] w
  | cons (h : f x w = (.ok y, w')) (hs : Transforms f w' xs ys w'') :
      Transforms f w (x :: xs) (y :: ys) w''

/-- How a run that starts in a world ends: its result, the world after it, and the calls. -/
inductive Ending (p : Pipeline (Stage ε σ) ι ο) (log : Event → σ → σ) (w : σ) :
    Except ε Nat → σ → List (Call ι ο) → Prop
  | unextracted (h : p.extract (log .extracting w) = (.error e, w')) :
      Ending p log w (.error e) w' [.extract]
  | empty (h : p.extract (log .extracting w) = (.ok [], w')) :
      Ending p log w (.ok 0) (log .nothingExtracted (log (.extracted 0) w')) [.extract]
  | untransformed (h : p.extract (log .extracting w) = (.ok (done ++ x :: rest), w₁))
      (hdone : Transforms p.transform
        (log .transforming (log (.extracted (done ++ x :: rest).length) w₁)) done ys w₂)
      (hx : p.transform x w₂ = (.error e, w')) :
      Ending p log w (.error e) w' (.extract :: (done ++ [x]).map .transform)
  | unloaded (h : p.extract (log .extracting w) = (.ok items, w₁)) (hne : items ≠ [])
      (hall : Transforms p.transform
        (log .transforming (log (.extracted items.length) w₁)) items ys w₂)
      (hload : p.load ys (log .loading w₂) = (.error e, w')) :
      Ending p log w (.error e) w' (.extract :: items.map .transform ++ [.load ys])
  | loaded (h : p.extract (log .extracting w) = (.ok items, w₁)) (hne : items ≠ [])
      (hall : Transforms p.transform
        (log .transforming (log (.extracted items.length) w₁)) items ys w₂)
      (hload : p.load ys (log .loading w₂) = (.ok n, w')) :
      Ending p log w (.ok n) (log (.loaded n) w') (.extract :: items.map .transform ++ [.load ys])

section Stages

theorem bind_ok {s : Stage ε σ α} {k : α → Stage ε σ β} {w w' : σ} {a : α}
    (h : s w = (.ok a, w')) : (s >>= k) w = k a w' := by
  simp only [bind, ExceptT.bind, ExceptT.mk, StateT.bind, ExceptT.bindCont, h]

theorem bind_error {s : Stage ε σ α} {k : α → Stage ε σ β} {w w' : σ} {e : ε}
    (h : s w = (.error e, w')) : (s >>= k) w = (.error e, w') := by
  simp only [bind, ExceptT.bind, ExceptT.mk, StateT.bind, ExceptT.bindCont, h]
  rfl

end Stages

section Items

variable {f : ι → Stage ε σ ο} {w w' : σ} {xs : List ι} {ys : List ο}

theorem transformAll_ok (h : Transforms f w xs ys w') : transformAll f xs w = (.ok ys, w') := by
  induction h with
  | nil => rfl
  | cons hx _ ih =>
    rw [transformAll, bind_ok hx, bind_ok ih]
    rfl

theorem transformAll_error {x : ι} {e : ε} {w'' : σ} (h : Transforms f w xs ys w')
    (hx : f x w' = (.error e, w'')) (rest : List ι) :
    transformAll f (xs ++ x :: rest) w = (.error e, w'') := by
  induction h with
  | nil => rw [List.nil_append, transformAll, bind_error hx]
  | cons hy _ ih => rw [List.cons_append, transformAll, bind_ok hy, bind_error (ih hx)]

theorem transforms_or_stops (f : ι → Stage ε σ ο) (items : List ι) (w : σ) :
    (∃ ys w', Transforms f w items ys w') ∨
      ∃ done x rest ys w' e w'', items = done ++ x :: rest ∧ Transforms f w done ys w' ∧
        f x w' = (.error e, w'') := by
  induction items generalizing w with
  | nil => exact .inl ⟨[], w, .nil⟩
  | cons x xs ih =>
    cases hx : f x w with
    | mk result w₁ =>
      cases result with
      | error e => exact .inr ⟨[], x, xs, [], w, e, w₁, rfl, .nil, hx⟩
      | ok y =>
        cases ih w₁ with
        | inl hall =>
          obtain ⟨ys, w', hys⟩ := hall
          exact .inl ⟨y :: ys, w', .cons hx hys⟩
        | inr hstops =>
          obtain ⟨done, z, rest, ys, w', e, w'', rfl, hdone, hz⟩ := hstops
          exact .inr ⟨x :: done, z, rest, y :: ys, w', e, w'', rfl, .cons hx hdone, hz⟩

theorem Transforms.watched {p : Pipeline (Stage ε σ) ι ο} (h : Transforms p.transform w xs ys w')
    (calls : List (Call ι ο)) :
    Transforms p.watched.transform (w, calls) xs ys (w', calls ++ xs.map .transform) := by
  induction h generalizing calls with
  | nil =>
    rw [List.map_nil, List.append_nil]
    exact .nil
  | cons hx hs ih =>
    rw [List.map_cons, List.append_cons]
    exact .cons (by simp [Pipeline.watched, watch, hx]) (ih _)

end Items

section Run

variable {p : Pipeline (Stage ε σ) ι ο} {log : Event → σ → σ} {w w' w₁ w₂ : σ} {e : ε}
  {items : List ι} {ys : List ο}

theorem note_bind (k : Unit → Stage ε σ α) (event : Event) :
    (note log event >>= k) w = k () (log event w) :=
  bind_ok rfl

theorem run_unextracted (h : p.extract (log .extracting w) = (.error e, w')) :
    p.run (note log) w = (.error e, w') := by
  rw [run, note_bind, bind_error h]

theorem run_empty (h : p.extract (log .extracting w) = (.ok [], w')) :
    p.run (note log) w = (.ok 0, log .nothingExtracted (log (.extracted 0) w')) := by
  rw [run, note_bind, bind_ok h, note_bind]
  rfl

theorem run_nonempty (h : p.extract (log .extracting w) = (.ok items, w₁)) (hne : items ≠ []) :
    p.run (note log) w =
      (do
        let results ← transformAll p.transform items
        note log .loading
        let count ← p.load results
        note log (.loaded count)
        pure count : Stage ε σ Nat)
      (log .transforming (log (.extracted items.length) w₁)) := by
  rw [run, note_bind, bind_ok h, note_bind, if_neg (by simpa using hne), note_bind]

theorem run_untransformed {done rest : List ι} {x : ι}
    (h : p.extract (log .extracting w) = (.ok (done ++ x :: rest), w₁))
    (hdone : Transforms p.transform
      (log .transforming (log (.extracted (done ++ x :: rest).length) w₁)) done ys w₂)
    (hx : p.transform x w₂ = (.error e, w')) : p.run (note log) w = (.error e, w') := by
  rw [run_nonempty h (by simp), bind_error (transformAll_error hdone hx rest)]

theorem run_unloaded (h : p.extract (log .extracting w) = (.ok items, w₁)) (hne : items ≠ [])
    (hall : Transforms p.transform
      (log .transforming (log (.extracted items.length) w₁)) items ys w₂)
    (hload : p.load ys (log .loading w₂) = (.error e, w')) :
    p.run (note log) w = (.error e, w') := by
  rw [run_nonempty h hne, bind_ok (transformAll_ok hall), note_bind, bind_error hload]

theorem run_loaded {n : Nat} (h : p.extract (log .extracting w) = (.ok items, w₁))
    (hne : items ≠ [])
    (hall : Transforms p.transform
      (log .transforming (log (.extracted items.length) w₁)) items ys w₂)
    (hload : p.load ys (log .loading w₂) = (.ok n, w')) :
    p.run (note log) w = (.ok n, log (.loaded n) w') := by
  rw [run_nonempty h hne, bind_ok (transformAll_ok hall), note_bind, bind_ok hload, note_bind]
  rfl

end Run

section Watched

variable {p : Pipeline (Stage ε σ) ι ο} {log : Event → σ → σ} {w w' : σ}
  {r : Except ε Nat} {calls : List (Call ι ο)}

theorem Ending.run_eq (h : Ending p log w r w' calls) : p.run (note log) w = (r, w') := by
  cases h with
  | unextracted h => exact run_unextracted h
  | empty h => exact run_empty h
  | untransformed h hdone hx => exact run_untransformed h hdone hx
  | unloaded h hne hall hload => exact run_unloaded h hne hall hload
  | loaded h hne hall hload => exact run_loaded h hne hall hload

theorem extract_watched {result : Except ε (List ι)}
    (h : p.extract (log .extracting w) = (result, w')) :
    p.watched.extract (logBeside log .extracting (w, [])) = (result, (w', [.extract])) := by
  simp [watched, watch, logBeside, h]

theorem load_watched {ys : List ο} (h : p.load ys (log .loading w) = (r, w'))
    (calls : List (Call ι ο)) :
    p.watched.load ys (logBeside log .loading (w, calls)) = (r, (w', calls ++ [.load ys])) := by
  simp [watched, watch, logBeside, h]

theorem Ending.watched_run_eq (h : Ending p log w r w' calls) :
    p.watched.run (note (logBeside log)) (w, []) = (r, (w', calls)) := by
  cases h with
  | unextracted h => exact run_unextracted (extract_watched h)
  | empty h => exact run_empty (extract_watched h)
  | untransformed h hdone hx =>
    apply run_untransformed (extract_watched h) (hdone.watched [.extract])
    simp [watched, watch, hx]
  | unloaded h hne hall hload =>
    exact run_unloaded (extract_watched h) hne (hall.watched [.extract]) (load_watched hload _)
  | loaded h hne hall hload =>
    exact run_loaded (extract_watched h) hne (hall.watched [.extract]) (load_watched hload _)

theorem exists_ending (p : Pipeline (Stage ε σ) ι ο) (log : Event → σ → σ) (w : σ) :
    ∃ r w' calls, Ending p log w r w' calls := by
  cases h : p.extract (log .extracting w) with
  | mk result w₁ =>
    cases result with
    | error e => exact ⟨_, _, _, .unextracted h⟩
    | ok items =>
      by_cases hne : items = []
      · rw [hne] at h
        exact ⟨_, _, _, .empty h⟩
      · obtain ⟨ys, w₂, hall⟩ | ⟨done, x, rest, ys, w₂, e, w', rfl, hdone, hx⟩ :=
          transforms_or_stops p.transform items
            (log .transforming (log (.extracted items.length) w₁))
        · cases hload : p.load ys (log .loading w₂) with
          | mk result w' =>
            cases result with
            | error e => exact ⟨_, _, _, .unloaded h hne hall hload⟩
            | ok n => exact ⟨_, _, _, .loaded h hne hall hload⟩
        · exact ⟨_, _, _, .untransformed h hdone hx⟩

/-- Whatever the stages do, a run ends in one of the five ways, with the calls that go with it, and
in no other. That its calls are written down changes nothing. -/
theorem run_ends (p : Pipeline (Stage ε σ) ι ο) (log : Event → σ → σ) (w : σ) :
    ∃ r w' calls, p.run (note log) w = (r, w') ∧
      p.watched.run (note (logBeside log)) (w, []) = (r, (w', calls)) ∧
      ∀ r₁ w₁ calls₁, Ending p log w r₁ w₁ calls₁ ↔ r₁ = r ∧ w₁ = w' ∧ calls₁ = calls := by
  obtain ⟨r, w', calls, h⟩ := exists_ending p log w
  refine ⟨r, w', calls, h.run_eq, h.watched_run_eq, ?_⟩
  intro r₁ w₁ calls₁
  constructor
  · intro h₁
    have heq := h₁.watched_run_eq.symm.trans h.watched_run_eq
    obtain ⟨hr, hstate⟩ := Prod.mk.inj heq
    exact ⟨hr, Prod.mk.inj hstate⟩
  · rintro ⟨rfl, rfl, rfl⟩
    exact h

end Watched

end WorkflowManifest.Pipeline

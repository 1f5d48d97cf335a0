import WorkflowManifest.Proofs.Job.Conversion
import Mathlib.Data.List.Forall2

namespace WorkflowManifest.Manifest

/-- The ways in which rendering ends: each text under its separator, or the first resource without
a text. -/
inductive Ending : List Resource → Except Problem String → Prop
  | whole (h : List.Forall₂ (fun r text => r.yaml = .ok text) rs texts) :
      Ending rs (.ok (String.join (texts.map (separator ++ ·))))
  | stopped (hdone : ∀ s ∈ done, ∃ text, s.yaml = .ok text) (h : r.yaml = .error e) :
      Ending (done ++ r :: rest) (.error (.unwritable r.name e))

section Rendering

variable {r : Resource} {rs done : List Resource} {text : String} {e : Json.WriteError}

theorem render_cons (h : r.yaml = .ok text) (rs : List Resource) :
    render (r :: rs) = (render rs).map (separator ++ text ++ ·) := by
  rw [render, h]

theorem render_stopped (hdone : ∀ s ∈ done, ∃ text, s.yaml = .ok text) (h : r.yaml = .error e)
    (rest : List Resource) : render (done ++ r :: rest) = .error (.unwritable r.name e) := by
  induction done with
  | nil => rw [List.nil_append, render, h]
  | cons s done ih =>
    obtain ⟨⟨text, hs⟩, hdone⟩ := List.forall_mem_cons.1 hdone
    rw [List.cons_append, render_cons hs, ih hdone]
    rfl

theorem render_whole {texts : List String}
    (h : List.Forall₂ (fun r text => r.yaml = .ok text) rs texts) :
    render rs = .ok (String.join (texts.map (separator ++ ·))) := by
  induction h with
  | nil => rfl
  | cons hr _ ih =>
    rw [render_cons hr, ih, List.map_cons, String.join_cons]
    rfl

theorem Ending.cons {x : Except Problem String} (h : r.yaml = .ok text) (hx : Ending rs x) :
    Ending (r :: rs) (x.map (separator ++ text ++ ·)) := by
  cases hx with
  | whole hall =>
    have hwhole := Ending.whole (.cons h hall)
    rwa [List.map_cons, String.join_cons] at hwhole
  | stopped hdone hs => exact .stopped (List.forall_mem_cons.2 ⟨⟨text, h⟩, hdone⟩) hs

theorem render_ends (rs : List Resource) : Ending rs (render rs) := by
  induction rs with
  | nil => exact .whole .nil
  | cons r rs ih =>
    cases h : r.yaml with
    | error e =>
      have hdone : ∀ s ∈ ([] : List Resource), ∃ text, s.yaml = .ok text := by simp
      rw [render, h]
      exact .stopped hdone h
    | ok text =>
      rw [render_cons h]
      exact ih.cons h

theorem Ending.render_eq {x : Except Problem String} (h : Ending rs x) : render rs = x := by
  cases h with
  | whole h => exact render_whole h
  | stopped hdone h => exact render_stopped hdone h _

theorem render_ok_iff : (∃ text, render rs = .ok text) ↔ ∀ r ∈ rs, ∃ text, r.yaml = .ok text := by
  induction rs with
  | nil => simp [render]
  | cons r rs ih =>
    rw [List.forall_mem_cons, ← ih]
    cases h : r.yaml with
    | error e => simp [render, h]
    | ok text =>
      rw [render_cons h]
      cases render rs <;> simp [Except.map]

theorem render_append (rs others : List Resource) :
    render (rs ++ others) = do return (← render rs) ++ (← render others) := by
  induction rs with
  | nil =>
    rw [List.nil_append]
    cases render others <;> simp [render, bind, Except.bind, pure, Except.pure]
  | cons r rs ih =>
    rw [List.cons_append]
    cases h : r.yaml with
    | error e =>
      rw [render, render, h]
      rfl
    | ok text =>
      rw [render_cons h, render_cons h, ih]
      cases render rs with
      | error p => rfl
      | ok front =>
        cases render others with
        | error p => rfl
        | ok back => simp [bind, Except.bind, pure, Except.pure, Except.map, String.append_assoc]

theorem render_error {p : Problem} (h : render rs = .error p) :
    ∃ done r rest e, rs = done ++ r :: rest ∧ (∀ s ∈ done, ∃ text, s.yaml = .ok text) ∧
      r.yaml = .error e ∧ p = .unwritable r.name e := by
  have hends := render_ends rs
  rw [h] at hends
  cases hends with
  | stopped hdone hr => exact ⟨_, _, _, _, rfl, hdone, hr, rfl⟩

end Rendering

section Loading

open Job (Yields delivered load)

variable {rs : List Resource}

theorem load_refused {m : Type → Type} [Monad m] [LawfulMonad m] [Host m] {p : Problem}
    (h : render rs = .error p) (target : Target) : (load target rs : Job m Nat) = throw p := by
  have hstop {α β : Type} (k : α → Job m β) : (throw p : Job m α) >>= k = throw p :=
    ExceptT.ext (by simp)
  have hwrite : (Job.write target rs : Job m Unit) = throw p := by
    rw [Job.write, h]
    exact hstop _
  rw [load, hwrite]
  exact hstop _

theorem load_whole {text : String} (h : render rs = .ok text) (target : Target) (w : World) :
    Yields (load target rs) w ((delivered text w target).1.map fun _ => rs.length)
      (delivered text w target).2 := by
  have hload := Job.yields_load rs target w
  unfold Job.loadedInto at hload
  rwa [h] at hload

/-- A manifest is there just in case each of its resources has a text, and is these texts under
their separators, list by list. Otherwise the first resource without a text is named, with its
failure below, and loading asks nothing of any host. What is loaded is the whole manifest, and the
count is that of its resources. -/
theorem load_all_or_nothing (rs : List Resource) :
    (∀ x, Ending rs x ↔ render rs = x) ∧
      ((∃ text, render rs = .ok text) ↔ ∀ r ∈ rs, ∃ text, r.yaml = .ok text) ∧
      (∀ others, render (rs ++ others) = do return (← render rs) ++ (← render others)) ∧
      (∀ p, render rs = .error p →
        (∃ done r rest e, rs = done ++ r :: rest ∧ (∀ s ∈ done, ∃ text, s.yaml = .ok text) ∧
          r.yaml = .error e ∧
          p.report = ⟨"Failed to serialize custom resource: " ++ r.name, [e.message]⟩) ∧
        ∀ (m : Type → Type) [Monad m] [LawfulMonad m] [Host m] (target : Target),
          (load target rs : Job m Nat) = throw p) ∧
      ∀ text, render rs = .ok text → ∀ target w,
        Yields (load target rs) w ((delivered text w target).1.map fun _ => rs.length)
          (delivered text w target).2 := by
  refine ⟨fun x => ⟨Ending.render_eq, ?_⟩, render_ok_iff, render_append rs, ?_,
    fun text htext => load_whole htext⟩
  · rintro rfl
    exact render_ends rs
  · intro p hp
    obtain ⟨done, r, rest, e, hrs, hdone, hr, rfl⟩ := render_error hp
    exact ⟨⟨done, r, rest, e, hrs, hdone, hr, rfl⟩, fun m _ _ _ => load_refused hp⟩

def numbered (name : String) (n : Json.Number) : Resource :=
  (Converter.ofOptions {}).convert ⟨[("name", .str name), ("nodes", .num n)]⟩

def one : Json.Number := { negative := false, whole := .ofDigits [1] }

def enormous : Json.Number := { negative := false, whole := .ofDigits (List.replicate 40 1) }

theorem load_all_or_nothing_enormous :
    (∃ p, render [numbered "a" one, numbered "b" enormous, numbered "c" enormous] = .error p ∧
        p.report.message = "Failed to serialize custom resource: b" ∧
        ∀ target, (load target [numbered "a" one, numbered "b" enormous, numbered "c" enormous] :
          Job (StateM World) Nat) = throw p) ∧
      ∃ text, render [numbered "a" one, numbered "b" one] = .ok text ∧
        ∀ w : World, w.stdoutFull = false →
          Yields (load .stdout [numbered "a" one, numbered "b" one]) w (.ok 2)
            { w with stdout := w.stdout ++ text } := by
  constructor
  · obtain ⟨p, hp⟩ : ∃ p,
      render [numbered "a" one, numbered "b" enormous, numbered "c" enormous] = .error p := ⟨_, rfl⟩
    obtain ⟨-, -, -, hrefused, -⟩ :=
      load_all_or_nothing [numbered "a" one, numbered "b" enormous, numbered "c" enormous]
    obtain ⟨-, hload⟩ := hrefused p hp
    refine ⟨p, hp, ?_, hload (StateM World)⟩
    cases hp
    rfl
  · obtain ⟨text, htext⟩ : ∃ text, render [numbered "a" one, numbered "b" one] = .ok text :=
      ⟨_, rfl⟩
    obtain ⟨-, -, -, -, hload⟩ := load_all_or_nothing [numbered "a" one, numbered "b" one]
    refine ⟨text, htext, fun w hroom => ?_⟩
    have hyields := hload text htext .stdout w
    simpa [delivered, World.print, hroom, Except.map, Except.mapError] using hyields

end Loading

end WorkflowManifest.Manifest

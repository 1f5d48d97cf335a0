import WorkflowManifest.Proofs.Job.Steps

namespace WorkflowManifest.Job

section Targets

def delivered (text : String) (w : World) : Target → Except Problem Unit × World
  | .stdout => ((w.print text).1.mapError .unprinted, (w.print text).2)
  | .file output =>
    ((deposited output text w.files).1, { w with files := (deposited output text w.files).2 })

def loadedInto (rs : List Resource) (target : Target) (w : World) : Except Problem Nat × World :=
  match Manifest.render rs with
  | .error p => (.error p, w)
  | .ok text => ((delivered text w target).1.map fun _ => rs.length, (delivered text w target).2)

def converted (c : Converter) (input : String) (target : Target) (w : World) :
    Except Problem Nat × World :=
  match source input w.files with
  | .error p => (.error p, w)
  | .ok d => loadedInto [c.convert d] target w

theorem yields_write {rs : List Resource} {text : String} (h : Manifest.render rs = .ok text)
    (target : Target) (w : World) :
    Yields (write target rs) w (delivered text w target).1 (delivered text w target).2 := by
  unfold write
  rw [h]
  apply (yields_ofExcept (.ok text) w).bind
  cases target with
  | stdout => exact yields_print text w
  | file output =>
    simp only [delivered]
    exact yields_deposited output text w

theorem yields_load (rs : List Resource) (target : Target) (w : World) :
    Yields (load target rs) w (loadedInto rs target w).1 (loadedInto rs target w).2 := by
  unfold load loadedInto
  cases h : Manifest.render rs with
  | error p =>
    unfold write
    rw [h]
    exact (yields_ofExcept (.error p) w).stop.stop
  | ok text =>
    have hwrite := yields_write h target w
    simp only
    cases hd : (delivered text w target).1 with
    | error p =>
      rw [hd] at hwrite
      exact hwrite.stop
    | ok _ =>
      rw [hd] at hwrite
      exact hwrite.bind (yields_pure rs.length _)

theorem yields_runStages (c : Converter) (input : String) (target : Target) (w : World) :
    Yields (runStages c input target) w (converted c input target w).1
      (converted c input target w).2 := by
  have hread := yields_read input w
  simp only [runStages, extract, bind_assoc, pure_bind]
  unfold converted
  cases hd : source input w.files with
  | error p =>
    rw [hd] at hread
    exact hread.stop
  | ok d =>
    rw [hd] at hread
    exact hread.bind ((yields_transformAll c d w).bind (yields_load [c.convert d] target w))

theorem yields_run (c : Converter) (input : String) (target : Target) (w : World) :
    Yields ((pipeline c input target).run note) w (converted c input target w).1
      (converted c input target w).2 := by
  have hread := yields_read input w
  simp only [Pipeline.run, pipeline, extract, bind_assoc, pure_bind]
  apply (yields_note _ w).bind
  unfold converted
  cases hd : source input w.files with
  | error p =>
    rw [hd] at hread
    exact hread.stop
  | ok d =>
    rw [hd] at hread
    apply hread.bind
    apply (yields_note _ w).bind
    apply (yields_note _ w).bind
    apply (yields_transformAll c d w).bind
    apply (yields_note _ w).bind
    exact (yields_load [c.convert d] target w).followed _

theorem yields_convertFile (input : String) (options : Options) (target : Target) (w : World) :
    Yields (convertFile input options target) w
      (converted (.ofOptions options) input target w).1
      (converted (.ofOptions options) input target w).2 :=
  (yields_note _ w).bind ((yields_run (.ofOptions options) input target w).followed .finished)

end Targets

section Files

variable {α : Type}

/-- What a job comes to in a world, and the files that it leaves there. -/
def leaves {α : Type} (j : Job (StateM World) α) (w : World) : Except Problem α × FileSystem :=
  ((j.run.run w).1, (j.run.run w).2.files)

def Does {α : Type} (j : Job (StateM World) α) (r : Effect α) : Prop :=
  ∀ w : World, leaves j w = r w.files

def loaded (output : String) (resources : List Resource) : Effect Nat :=
  andThen (fun fs => (Manifest.render resources, fs)) fun text =>
    andThen (prepared output) fun _ =>
      andThen (written output text) fun _ => silent resources.length

/-- What is left of a conversion once its log is left aside. -/
def conversion (c : Converter) (input output : String) : Effect Nat :=
  andThen (fun fs => (source input fs, fs)) fun d => loaded output [c.convert d]

theorem converted_file (c : Converter) (input output : String) (w : World) :
    converted c input (.file output) w =
      ((conversion c input output w.files).1,
        { w with files := (conversion c input output w.files).2 }) := by
  simp only [converted, loadedInto, conversion, loaded, andThen]
  cases source input w.files with
  | error p => rfl
  | ok d =>
    simp only
    cases Manifest.render [c.convert d] with
    | error p => rfl
    | ok text =>
      simp only [delivered, deposited, andThen]
      cases prepared output w.files with
      | mk result fs =>
        cases result with
        | error p => rfl
        | ok _ =>
          simp only
          cases written output text fs with
          | mk result fs' => cases result <;> rfl

theorem Yields.leaves_eq {j : Job (StateM World) α} {w w' : World} {x : Except Problem α}
    (h : Yields j w x w') : leaves j w = (x, w'.files) := by
  obtain ⟨log, hrun⟩ := h.run_eq
  rw [leaves, hrun]

theorem does_runStages (c : Converter) (input output : String) :
    Does (runStages c input (.file output)) (conversion c input output) := by
  intro w
  rw [(yields_runStages c input (.file output) w).leaves_eq, converted_file]

theorem does_convertFile (input : String) (options : Options) (output : String) :
    Does (convertFile input options (.file output))
      (conversion (.ofOptions options) input output) := by
  intro w
  rw [(yields_convertFile input options (.file output) w).leaves_eq, converted_file]

end Files

section Console

variable (c : Converter) (input : String) (w : World)

theorem converted_stdout :
    (∃ d text, source input w.files = .ok d ∧ Manifest.render [c.convert d] = .ok text ∧
        converted c input .stdout w = (.ok 1, { w with stdout := w.stdout ++ text })) ∨
      ∃ p, converted c input .stdout w = (.error p, w) := by
  unfold converted loadedInto
  cases hd : source input w.files with
  | error p => exact .inr ⟨p, rfl⟩
  | ok d =>
    simp only
    cases htext : Manifest.render [c.convert d] with
    | error p => exact .inr ⟨p, rfl⟩
    | ok text =>
      simp only [delivered, World.print]
      split
      next => exact .inr ⟨_, rfl⟩
      next => exact .inl ⟨d, text, rfl, htext, rfl⟩

theorem converted_printed {d : Document} {text : String} (hd : source input w.files = .ok d)
    (htext : Manifest.render [c.convert d] = .ok text) (hroom : w.stdoutFull = false) :
    converted c input .stdout w = (.ok 1, { w with stdout := w.stdout ++ text }) := by
  simp only [converted, loadedInto, hd, htext, delivered, World.print, hroom]
  rfl

theorem converted_error {target : Target} {p : Problem}
    (h : (converted c input target w).1 = .error p) :
    (converted c input target w).2.stdout = w.stdout := by
  cases target with
  | file output => rw [converted_file]
  | stdout =>
    obtain ⟨d, text, -, -, hok⟩ | ⟨q, herror⟩ := converted_stdout c input w
    · rw [hok] at h
      cases h
    · rw [herror]

end Console

end WorkflowManifest.Job

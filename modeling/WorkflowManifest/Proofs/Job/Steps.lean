import WorkflowManifest.Job
import WorkflowManifest.Proofs.FileSystem.Changes

namespace WorkflowManifest.Job

variable {α β : Type}

/-- In a world, but for its log, a job comes to a result and another world, but for its log. -/
def Yields (j : Job (StateM World) α) (w : World) (x : Except Problem α) (w' : World) : Prop :=
  ∀ log, ∃ log', j.run.run { w with log } = (x, { w' with log := log' })

section Steps

variable {j : Job (StateM World) α} {k : α → Job (StateM World) β} {w w' w'' : World}

theorem run_bind (j : Job (StateM World) α) (k : α → Job (StateM World) β) (w : World) :
    (j >>= k).run.run w =
      match j.run.run w with
      | (.ok a, w') => (k a).run.run w'
      | (.error p, w') => (.error p, w') := by
  simp only [ExceptT.run, StateT.run, bind, ExceptT.bind, ExceptT.mk, StateT.bind,
    ExceptT.bindCont]
  cases j w with
  | mk result w' => cases result <;> rfl

theorem Yields.bind {a : α} {x : Except Problem β} (hj : Yields j w (.ok a) w')
    (hk : Yields (k a) w' x w'') : Yields (j >>= k) w x w'' := by
  intro log
  obtain ⟨log', hj⟩ := hj log
  obtain ⟨log'', hk⟩ := hk log'
  refine ⟨log'', ?_⟩
  rw [run_bind, hj]
  exact hk

theorem Yields.stop {p : Problem} (hj : Yields j w (.error p) w') :
    Yields (j >>= k) w (.error p) w' := by
  intro log
  obtain ⟨log', hj⟩ := hj log
  refine ⟨log', ?_⟩
  rw [run_bind, hj]

theorem yields_ofExcept (x : Except Problem α) (w : World) : Yields (ofExcept x) w x w :=
  fun log => ⟨log, rfl⟩

theorem yields_pure (a : α) (w : World) : Yields (pure a) w (.ok a) w := yields_ofExcept (.ok a) w

theorem yields_throw (p : Problem) (w : World) :
    Yields (throw p : Job (StateM World) α) w (.error p) w := yields_ofExcept (.error p) w

theorem yields_note (e : Event) (w : World) : Yields (note e) w (.ok ()) w :=
  fun log => ⟨log ++ [e], rfl⟩

theorem yields_notes (es : List Event) (w : World) :
    Yields (es.forM (note : Event → Job (StateM World) Unit)) w (.ok ()) w := by
  induction es with
  | nil => exact yields_pure () w
  | cons e es ih => exact (yields_note e w).bind ih

theorem yields_require {ε : Type} (problem : ε → Problem) {action : StateM World (Except ε α)}
    {x : Except ε α} (h : ∀ log, action.run { w with log } = (x, { w' with log })) :
    Yields (require problem action) w (x.mapError problem) w' := by
  intro log
  refine ⟨log, ?_⟩
  show ((action.run { w with log }).1.mapError problem, (action.run { w with log }).2) = _
  rw [h]

theorem Yields.followed {x : Except Problem α} (h : Yields j w x w') (e : α → Event) :
    Yields (do let a ← j; note (e a); pure a) w x w' := by
  cases x with
  | error p => exact h.stop
  | ok a => exact h.bind ((yields_note (e a) w').bind (yields_pure a w'))

theorem Yields.run_eq {x : Except Problem α} (h : Yields j w x w') :
    ∃ log, j.run.run w = (x, { w' with log }) := h w.log

end Steps

section Reading

def sourceText (input : String) (fs : FileSystem) : Except Problem String :=
  match fs.read input with
  | .error e => .error (.unread input (.system e))
  | .ok content =>
    match String.fromUTF8? content with
    | some text => .ok text
    | none => .error (.unread input .notText)

def source (input : String) (fs : FileSystem) : Except Problem Document :=
  match sourceText input fs with
  | .error p => .error p
  | .ok text => (Document.read text).mapError (.unparsed input)

theorem fromUTF8?_toUTF8 (text : String) : String.fromUTF8? text.toUTF8 = some text :=
  dif_pos text.isValidUTF8

theorem source_of_read {input text : String} {fs : FileSystem} {d : Document}
    (hread : fs.read input = .ok text.toUTF8) (hd : Document.read text = .ok d) :
    source input fs = .ok d := by
  have htext : sourceText input fs = .ok text := by
    unfold sourceText
    rw [hread]
    simp only [fromUTF8?_toUTF8]
  rw [source, htext]
  simp only
  rw [hd]
  rfl

theorem yields_readText (input : String) (w : World) :
    Yields (readText input) w (sourceText input w.files) w := by
  have hread : Yields (require (fun e => .unread input (.system e)) (Host.read input)) w
      ((w.files.read input).mapError fun e => .unread input (.system e)) w :=
    yields_require _ fun _ => rfl
  unfold readText sourceText
  cases h : w.files.read input with
  | error e =>
    rw [h] at hread
    exact hread.stop
  | ok content =>
    rw [h] at hread
    apply hread.bind
    simp only
    cases String.fromUTF8? content with
    | some text => exact yields_pure text w
    | none => exact yields_throw _ w

theorem yields_read (input : String) (w : World) :
    Yields (read input) w (source input w.files) w := by
  have htext := yields_readText input w
  apply (yields_note (.reading input) w).bind
  unfold source
  cases h : sourceText input w.files with
  | error p =>
    rw [h] at htext
    exact htext.stop
  | ok text =>
    rw [h] at htext
    apply htext.bind
    simp only
    cases Document.read text with
    | error failure => exact yields_throw _ w
    | ok d => exact (yields_note _ w).bind (yields_pure d w)

end Reading

section Converting

theorem yields_transform (c : Converter) (d : Document) (w : World) :
    Yields (transform c d) w (.ok (c.convert d)) w :=
  (yields_notes (c.events d) w).bind (yields_pure (c.convert d) w)

theorem yields_transformAll (c : Converter) (d : Document) (w : World) :
    Yields (Pipeline.transformAll (transform c) [d]) w (.ok [c.convert d]) w :=
  (yields_transform c d w).bind ((yields_pure [] w).bind (yields_pure [c.convert d] w))

end Converting

section Writing

abbrev Effect (α : Type) := FileSystem → Except Problem α × FileSystem

def andThen {α β : Type} (r : Effect α) (s : α → Effect β) : Effect β := fun fs =>
  match r fs with
  | (.ok a, fs') => s a fs'
  | (.error p, fs') => (.error p, fs')

def silent {α : Type} (a : α) : Effect α := fun fs => (.ok a, fs)

def chain (output : String) : List String := (Path.above output).takeWhile (· ≠ "")

def prepared (output : String) : Effect Unit := fun fs =>
  match chain output with
  | [] => (.ok (), fs)
  | directory :: above =>
    ((FileSystem.makeDirectories (directory :: above) fs).1.mapError (.noDirectory directory),
      (FileSystem.makeDirectories (directory :: above) fs).2)

def written (output text : String) : Effect Unit := fun fs =>
  match fs.write output text.toUTF8 with
  | .ok fs' => (.ok (), fs')
  | .error e => (.error (.unwritten output e), fs)

theorem makeDirectory_ok {path : String} (w : World) {fs : FileSystem}
    (h : w.files.makeDirectory path = .ok fs) :
    (Host.makeDirectory path : StateM World _).run w = (.ok (), { w with files := fs }) := by
  show w.change (·.makeDirectory path) = _
  simp [World.change, h]

theorem makeDirectory_error {path : String} (w : World) {e : SystemError}
    (h : w.files.makeDirectory path = .error e) :
    (Host.makeDirectory path : StateM World _).run w = (.error e, w) := by
  show w.change (·.makeDirectory path) = _
  simp [World.change, h]

theorem makeDirectories_run (paths : List String) (w : World) :
    (makeDirectories paths : StateM World (Except SystemError Unit)).run w =
      ((FileSystem.makeDirectories paths w.files).1,
        { w with files := (FileSystem.makeDirectories paths w.files).2 }) := by
  induction paths generalizing w with
  | nil => rfl
  | cons path above ih =>
    rw [makeDirectories, FileSystem.makeDirectories, StateT.run_bind]
    cases h : w.files.makeDirectory path with
    | ok fs =>
      rw [makeDirectory_ok w h]
      rfl
    | error e =>
      rw [makeDirectory_error w h]
      cases e with
      | notFound =>
        show (makeDirectories above >>= _ : StateM World _).run w = _
        rw [StateT.run_bind, ih]
        cases habove : FileSystem.makeDirectories above w.files with
        | mk result fs =>
          cases result with
          | error e => rfl
          | ok _ =>
            show (Host.makeDirectory path >>= makeDirectories.settle path : StateM World _).run
              { w with files := fs } = _
            rw [StateT.run_bind]
            cases h' : fs.makeDirectory path with
            | ok fs' =>
              rw [makeDirectory_ok { w with files := fs } h']
              simp only [h']
              rfl
            | error e =>
              rw [makeDirectory_error { w with files := fs } h']
              simp only [h']
              rfl
      | _ => rfl

theorem yields_prepareDirectory (output : String) (w : World) :
    Yields (prepareDirectory output) w (prepared output w.files).1
      { w with files := (prepared output w.files).2 } := by
  unfold prepareDirectory prepared chain
  cases (Path.above output).takeWhile (· ≠ "") with
  | nil => exact yields_pure () w
  | cons directory above => exact yields_require _ fun log => makeDirectories_run _ { w with log }

def changed (f : FileSystem → Except SystemError FileSystem) (fs : FileSystem) :
    Except SystemError Unit × FileSystem :=
  match f fs with
  | .ok fs' => (.ok (), fs')
  | .error e => (.error e, fs)

theorem change_log (f : FileSystem → Except SystemError FileSystem) (w : World)
    (log : List Event) :
    { w with log }.change f =
      ((changed f w.files).1, { w with files := (changed f w.files).2, log }) := by
  unfold World.change changed
  dsimp only
  cases f w.files <;> rfl

theorem written_eq_changed (output text : String) (fs : FileSystem) :
    written output text fs =
      ((changed (·.write output text.toUTF8) fs).1.mapError (.unwritten output),
        (changed (·.write output text.toUTF8) fs).2) := by
  unfold written changed
  dsimp only
  cases fs.write output text.toUTF8 <;> rfl

theorem yields_written (output text : String) (w : World) :
    Yields (require (.unwritten output) (Host.write output text)) w (written output text w.files).1
      { w with files := (written output text w.files).2 } := by
  rw [written_eq_changed]
  exact yields_require _ (change_log (·.write output text.toUTF8) w)

def deposited (output text : String) : Effect Unit :=
  andThen (prepared output) fun _ => written output text

theorem yields_deposited (output text : String) (w : World) :
    Yields (do
      prepareDirectory output
      require (.unwritten output) (Host.write output text)
      note (.wrote output)) w (deposited output text w.files).1
      { w with files := (deposited output text w.files).2 } := by
  have hprepared := yields_prepareDirectory output w
  unfold deposited andThen
  cases hp : prepared output w.files with
  | mk result fs =>
    rw [hp] at hprepared
    cases result with
    | error p => exact hprepared.stop
    | ok _ =>
      apply hprepared.bind
      have hwritten := yields_written output text { w with files := fs }
      simp only at hwritten ⊢
      cases hw : written output text fs with
      | mk result fs' =>
        rw [hw] at hwritten
        cases result with
        | error p => exact hwritten.stop
        | ok _ => exact hwritten.bind (yields_note _ _)

theorem yields_print (text : String) (w : World) :
    Yields (require .unprinted (Host.print text)) w ((w.print text).1.mapError .unprinted)
      (w.print text).2 := by
  apply yields_require
  intro log
  show { w with log }.print text = _
  unfold World.print
  dsimp only
  split <;> rfl

end Writing

end WorkflowManifest.Job

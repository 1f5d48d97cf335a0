import WorkflowManifest.Program
import WorkflowManifest.Proofs.CommandLine.Parts
import WorkflowManifest.Proofs.Job.AllOrNothing
import WorkflowManifest.Proofs.Program.Report

/-!
How the program ends. The command line, the files and the room on the standard output decide on the
exit status, on what is printed and on the files that are left; what is logged goes to the standard
error alone.
-/

namespace WorkflowManifest.Program

open CommandLine
open Job (leaves converted source)

/-- A command line is accepted, and a request is what it asks for. -/
def Asks (args : List String) (r : Request) : Prop := ∃ g, read args = .ok g ∧ g.parts = .ok r

def logged (r : Request) (w : World) : List Event :=
  ((Job.convertFile r.file r.options r.target : Job (StateM World) Nat).run.run w).2.log

/-- How the program ends: rejecting its command line, with a text about itself, with a manifest
printed or written, or with the report of a problem below what the log shows. -/
inductive Ending (args : List String) (spec : Option String) (w : World)
    (located : Problem → Option String) : Outcome → Prop
  | rejected {r : Rejection} (h : read args = .error (.rejected r)) :
      Ending args spec w located ⟨2, w.stdout, Stop.stderr (.rejected r), w.files⟩
  | answered {stop : Stop} (h : read args = .error stop)
      (hstop : stop ∈ [.shortHelp, .longHelp, .version]) :
      Ending args spec w located ⟨0, (w.print stop.stdout).2.stdout, "", w.files⟩
  | printed {r : Request} {d : Document} {text : String} (h : Asks args r)
      (htarget : r.target = .stdout)
      (hrun : leaves (Job.convertFile r.file r.options r.target) w = (.ok 1, w.files))
      (hd : source r.file w.files = .ok d)
      (htext : Manifest.render [(Converter.ofOptions r.options).convert d] = .ok text) :
      Ending args spec w located
        ⟨0, w.stdout ++ text, logText (logFilter spec r.debug) (logged r w), w.files⟩
  | written {r : Request} {output : String} {n : Nat} {files : FileSystem}
      (h : Asks args r) (htarget : r.target = .file output)
      (hrun : leaves (Job.convertFile r.file r.options r.target) w = (.ok n, files)) :
      Ending args spec w located
        ⟨0, w.stdout, logText (logFilter spec r.debug) (logged r w), files⟩
  | failed {r : Request} {p : Problem} {files : FileSystem} {message : String}
      {cause : Option String} (h : Asks args r)
      (hrun : leaves (Job.convertFile r.file r.options r.target) w = (.error p, files))
      (htold : p.Told message cause) :
      Ending args spec w located
        ⟨1, w.stdout, logText (logFilter spec r.debug) (logged r w) ++ ("Error: " ++ message ++
          Text.passage "Caused by" cause ++ Text.passage "Location" (located p) ++ "\n"), files⟩

section

variable {args : List String} {r : Request} (located : Problem → Option String)

theorem run_asked (h : Asks args r) (spec : Option String) (w : World) :
    run args spec w located =
      { exit := exitOf (converted (.ofOptions r.options) r.file r.target w).1
        stdout := (converted (.ofOptions r.options) r.file r.target w).2.stdout
        stderr := logText (logFilter spec r.debug) (logged r w) ++
          reportOf located (converted (.ofOptions r.options) r.file r.target w).1
        files := (converted (.ofOptions r.options) r.file r.target w).2.files } := by
  obtain ⟨g, hread, hparts⟩ := h
  obtain ⟨log, hrun⟩ := (Job.yields_convertFile r.file r.options r.target w).run_eq
  have hjob : (job g : Job (StateM World) Nat).run.run w =
      (Job.convertFile r.file r.options r.target : Job (StateM World) Nat).run.run w := by
    rw [job, hparts, Job.run_bind]
    rfl
  simp only [run, hread, hjob, logged, hrun, debug_of_parts hparts]

theorem print_empty (w : World) : w.print "" = (.ok (), w) := by simp [World.print]

theorem stopped_ending {stop : Stop} (h : read args = .error stop) (spec : Option String)
    (w : World) : Ending args spec w located (run args spec w located) := by
  have hrun : run args spec w located =
      ⟨stop.exit, (w.print stop.stdout).2.stdout, stop.stderr, w.files⟩ := by
    simp only [run, h]
  rw [hrun]
  cases stop with
  | rejected r =>
    rw [Stop.stdout, print_empty]
    exact .rejected h
  | shortHelp => exact .answered h (by simp)
  | longHelp => exact .answered h (by simp)
  | version => exact .answered h (by simp)

theorem asked_ending (h : Asks args r) (spec : Option String) (w : World) :
    Ending args spec w located (run args spec w located) := by
  have hrun := run_asked located h spec w
  have hleaves := (Job.yields_convertFile r.file r.options r.target w).leaves_eq
  rw [hrun]
  cases hresult : (converted (.ofOptions r.options) r.file r.target w).1 with
  | error p =>
    rw [hresult] at hleaves
    obtain ⟨message, cause, htold, htext⟩ := p.report_text (located p)
    rw [Job.converted_error _ _ _ hresult, reportOf, htext]
    exact .failed h hleaves htold
  | ok n =>
    cases htarget : r.target with
    | stdout =>
      rw [htarget] at hresult hleaves
      obtain ⟨d, text, hd, htext, hok⟩ | ⟨p, herror⟩ :=
        Job.converted_stdout (.ofOptions r.options) r.file w
      · rw [hok] at hleaves ⊢
        rw [reportOf, String.append_empty]
        exact .printed h htarget (htarget ▸ hleaves) hd htext
      · rw [herror] at hresult
        cases hresult
    | file output =>
      rw [htarget] at hresult hleaves
      rw [hresult] at hleaves
      rw [Job.converted_file] at hleaves ⊢
      rw [reportOf, String.append_empty]
      exact .written h htarget (htarget ▸ hleaves)

theorem run_ending (args : List String) (spec : Option String) (w : World) :
    Ending args spec w located (run args spec w located) := by
  cases hread : read args with
  | error stop => exact stopped_ending located hread spec w
  | ok g =>
    obtain ⟨r, hparts⟩ := parts_of_read hread
    exact asked_ending located ⟨g, hread, hparts⟩ spec w

/-- A path that leads to a file. -/
def Regular (fs : FileSystem) (path : String) : Prop :=
  ∃ place content, fs.resolve path = .ok (.existing place (.file content))

theorem written_regular {c : Converter} {input output : String} {fs fs' : FileSystem} {n : Nat}
    (h : Job.conversion c input output fs = (.ok n, fs')) (hregular : Regular fs' output) :
    ∃ d text, source input fs = .ok d ∧ Manifest.render [c.convert d] = .ok text ∧
      fs'.read output = .ok text.toUTF8 := by
  have hends := Job.conversion_ends c input output fs
  rw [h] at hends
  cases hends with
  | written hd htext _ hread _ => exact ⟨_, _, hd, htext, hread⟩
  | swallowed _ _ hplace _ =>
    obtain ⟨place, content, hfile⟩ := hregular
    rw [hplace] at hfile
    cases hfile

theorem exitOf_eq_zero {x : Except Problem Nat} : exitOf x = 0 ↔ ∃ n, x = .ok n := by
  cases x <;> simp [exitOf]

theorem exitOf_ne_two (x : Except Problem Nat) : exitOf x ≠ 2 := by
  cases x <;> simp [exitOf]

theorem exit_eq_two_iff (args : List String) (spec : Option String) (w : World) :
    (run args spec w located).exit = 2 ↔ ∃ r, read args = .error (.rejected r) := by
  constructor
  · intro h
    cases hread : read args with
    | error stop =>
      simp only [run, hread] at h
      cases stop <;> simp_all [Stop.exit]
    | ok g =>
      obtain ⟨r, hparts⟩ := parts_of_read hread
      rw [run_asked located ⟨g, hread, hparts⟩ spec w] at h
      exact absurd h (exitOf_ne_two _)
  · rintro ⟨r, hread⟩
    simp only [run, hread, Stop.exit]

theorem exit_eq_zero_iff (h : Asks args r) (spec : Option String) (w : World) :
    (run args spec w located).exit = 0 ↔
      ∃ n files, leaves (Job.convertFile r.file r.options r.target) w = (.ok n, files) := by
  have hleaves := (Job.yields_convertFile r.file r.options r.target w).leaves_eq
  rw [run_asked located h spec w, exitOf_eq_zero, hleaves]
  simp

theorem run_quiet {args' : List String} {r' : Request} (h : Asks args r) (h' : Asks args' r')
    (hfile : r'.file = r.file) (hoptions : r'.options = r.options) (htarget : r'.target = r.target)
    (spec spec' : Option String) (w : World) :
    (run args' spec' w located).exit = (run args spec w located).exit ∧
      (run args' spec' w located).stdout = (run args spec w located).stdout ∧
      (run args' spec' w located).files = (run args spec w located).files := by
  rw [run_asked located h spec w, run_asked located h' spec' w, hfile, hoptions, htarget]
  exact ⟨rfl, rfl, rfl⟩

theorem run_printing {args' : List String} {r' : Request} {path : String} (h : Asks args r)
    (h' : Asks args' r') (hfile : r'.file = r.file) (hoptions : r'.options = r.options)
    (htarget : r.target = .file path) (htarget' : r'.target = .stdout) (spec spec' : Option String)
    (w : World) (hexit : (run args spec w located).exit = 0)
    (hregular : Regular (run args spec w located).files path) :
    ∃ text, (run args' spec' { w with stdoutFull := false } located).exit = 0 ∧
      (run args' spec' { w with stdoutFull := false } located).stdout = w.stdout ++ text ∧
      (run args spec w located).files.read path = .ok text.toUTF8 := by
  have hrun := run_asked located h spec w
  have hrun' := run_asked located h' spec' { w with stdoutFull := false }
  rw [htarget, Job.converted_file] at hrun
  rw [htarget', hfile, hoptions] at hrun'
  rw [hrun] at hexit hregular
  obtain ⟨n, hok⟩ := exitOf_eq_zero.1 hexit
  obtain ⟨d, text, hd, htext, hread⟩ := written_regular (Prod.ext hok rfl) hregular
  have hprinted := Job.converted_printed (.ofOptions r.options) r.file
    { w with stdoutFull := false } hd htext rfl
  rw [hprinted] at hrun'
  rw [hrun, hrun']
  exact ⟨text, rfl, rfl, hread⟩

end

/-- The program rejects its command line with the status 2 and nothing done, answers a question
about itself, or converts a workflow, and its status is 0 then just in case the conversion succeeds.
It prints manifests and answers, and nothing else; a problem is reported below the log. The log can
be asked for more or less without any difference to the status, the output and the files; and what
is left in a file is what is printed when none is named. -/
theorem run_ends_quietly (args : List String) (spec : Option String) (w : World)
    (located : Problem → Option String) :
    Ending args spec w located (run args spec w located) ∧
      ((run args spec w located).exit = 2 ↔ ∃ r, read args = .error (.rejected r)) ∧
      (∀ r, Asks args r →
        ((run args spec w located).exit = 0 ↔
          ∃ n files, leaves (Job.convertFile r.file r.options r.target) w = (.ok n, files))) ∧
      (∀ g debug args' spec', read args = .ok g → read args' = .ok { g with debug } →
        (run args' spec' w located).exit = (run args spec w located).exit ∧
          (run args' spec' w located).stdout = (run args spec w located).stdout ∧
          (run args' spec' w located).files = (run args spec w located).files) ∧
      ∀ g path debug args' spec', read args = .ok g → g.output = some path →
        read args' = .ok { g with output := none, debug } → (run args spec w located).exit = 0 →
        Regular (run args spec w located).files path →
        ∃ text, (run args' spec' { w with stdoutFull := false } located).exit = 0 ∧
          (run args' spec' { w with stdoutFull := false } located).stdout = w.stdout ++ text ∧
          (run args spec w located).files.read path = .ok text.toUTF8 := by
  refine ⟨run_ending located args spec w, exit_eq_two_iff located args spec w,
    fun r h => exit_eq_zero_iff located h spec w, ?_, ?_⟩
  · intro g debug args' spec' hread hread'
    obtain ⟨r, hparts⟩ := parts_of_read hread
    have hparts' := parts_debug hparts debug
    exact run_quiet located ⟨g, hread, hparts⟩ ⟨_, hread', hparts'⟩ rfl rfl rfl spec spec' w
  · intro g path debug args' spec' hread houtput hread' hexit hregular
    obtain ⟨r, hparts⟩ := parts_of_read hread
    have hparts' := parts_debug (parts_printing hparts) debug
    have htarget : r.target = .file path := by
      rw [target_of_parts hparts, Given.target, houtput]
    exact run_printing located ⟨g, hread, hparts⟩ ⟨_, hread', hparts'⟩ rfl rfl htarget rfl spec
      spec' w hexit hregular

def crowdedWorld : World where
  files := { entries := [(["w"], .file "\x7b\x7d".toUTF8)], workingDirectory := [] }
  stdoutFull := true

theorem crowded_conversion :
    ∃ text, Job.conversion (.ofOptions {}) "w" "m" crowdedWorld.files =
        (.ok 1, crowdedWorld.files.put ["m"] (.file text)) ∧
      Regular (crowdedWorld.files.put ["m"] (.file text)) "m" := by
  have hw : crowdedWorld.files.resolve "w" = .ok (.existing ["w"] (.file "\x7b\x7d".toUTF8)) :=
    (FileSystem.resolve_names (by simp) rfl (by decide) rfl rfl).trans rfl
  have hvacant : crowdedWorld.files.resolve "m" = .ok (.vacant ["m"]) :=
    (FileSystem.resolve_names (by simp) rfl (by decide) rfl rfl).trans rfl
  have hsource : source "w" crowdedWorld.files = .ok ⟨[]⟩ :=
    Job.source_of_read (FileSystem.read_file rfl hw) rfl
  have hprepared : Job.prepared "m" crowdedWorld.files = (.ok (), crowdedWorld.files) := rfl
  have hslash : Path.endsInSlash "m" = false := rfl
  obtain ⟨text, htext⟩ : ∃ text,
    Manifest.render [(Converter.ofOptions {}).convert ⟨[]⟩] = .ok text := ⟨_, rfl⟩
  have hwritten : Job.written "m" text crowdedWorld.files =
      (.ok (), crowdedWorld.files.put ["m"] (.file text.toUTF8)) := by
    simp [Job.written, FileSystem.write, hslash, hvacant, bind, Except.bind]
  obtain ⟨-, -, hput⟩ := FileSystem.resolve_free hvacant rfl
  refine ⟨text.toUTF8, ?_, _, _, hput _⟩
  simp [Job.conversion, Job.loaded, Job.andThen, hsource, htext, hprepared, hwritten, Job.silent]

theorem run_ends_quietly_crowded :
    (run ["-o", "m", "w"] none crowdedWorld).exit = 0 ∧
      (run ["w", "-o=m", "--debug"] (some "trace") crowdedWorld).exit = 0 ∧
      ∃ text,
        (run ["w", "--debug"] (some "off") { crowdedWorld with stdoutFull := false }).stdout =
          crowdedWorld.stdout ++ text ∧
        (run ["-o", "m", "w"] none crowdedWorld).files.read "m" = .ok text.toUTF8 := by
  have hread : read ["-o", "m", "w"] = .ok { file := some "w", output := some "m" } := rfl
  have hagain : read ["w", "-o=m", "--debug"] =
      .ok { file := some "w", output := some "m", debug := true } := rfl
  have hprint : read ["w", "--debug"] = .ok { file := some "w", debug := true } := rfl
  obtain ⟨content, hconversion, hregular⟩ := crowded_conversion
  have hasks : Asks ["-o", "m", "w"] ⟨"w", {}, .file "m", false⟩ := ⟨_, hread, rfl⟩
  have hrun := run_asked (fun _ => none) hasks none crowdedWorld
  rw [Job.converted_file, hconversion] at hrun
  have hexit : (run ["-o", "m", "w"] none crowdedWorld).exit = 0 := by
    rw [hrun]
    rfl
  have hfile : Regular (run ["-o", "m", "w"] none crowdedWorld).files "m" := by
    rw [hrun]
    exact hregular
  obtain ⟨-, -, -, hquiet, hsame⟩ :=
    run_ends_quietly ["-o", "m", "w"] none crowdedWorld fun _ => none
  obtain ⟨hstatus, -, -⟩ := hquiet _ true _ (some "trace") hread hagain
  obtain ⟨text, -, hstdout, hcontent⟩ :=
    hsame _ "m" true _ (some "off") hread rfl hprint hexit hfile
  exact ⟨hexit, hstatus.trans hexit, text, hstdout, hcontent⟩

end WorkflowManifest.Program

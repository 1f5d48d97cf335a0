import WorkflowManifest.CommandLine.Answer
import WorkflowManifest.Log.Filter
import WorkflowManifest.Log.Line

namespace WorkflowManifest.Program

open CommandLine

structure Outcome where
  exit : Nat
  stdout : String
  stderr : String
  files : FileSystem

def defaultLog (debug : Bool) : String := if debug then "debug" else "warn"

def logFilter (spec : Option String) (debug : Bool) : LogFilter :=
  .ofText (spec.getD (defaultLog debug))

def job {m : Type → Type} [Monad m] [Host m] (g : Given) : Job m Nat := do
  let r ← Job.ofExcept g.parts
  Job.convertFile r.file r.options r.target

def exitOf : Except Problem Nat → Nat
  | .ok _ => 0
  | .error _ => 1

/-- `located` tells where the report of a problem is made. -/
def reportOf (located : Problem → Option String) : Except Problem Nat → String
  | .ok _ => ""
  | .error p => p.report.text (located p)

def logText (f : LogFilter) (log : List Event) : String :=
  String.join (f.warnings.map (· ++ "\n")) ++ String.join ((log.filter f.shows).map Event.line)

def run (args : List String) (logSpec : Option String) (w : World)
    (located : Problem → Option String := fun _ => none) : Outcome :=
  match read args with
  | .error stop =>
    { exit := stop.exit
      stdout := (w.print stop.stdout).2.stdout
      stderr := stop.stderr
      files := w.files }
  | .ok given =>
    let (result, after) := (job given : Job (StateM World) Nat).run.run w
    { exit := exitOf result
      stdout := after.stdout
      stderr := logText (logFilter logSpec given.debug) after.log ++ reportOf located result
      files := after.files }

end WorkflowManifest.Program

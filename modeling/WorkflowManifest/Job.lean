import WorkflowManifest.Convert
import WorkflowManifest.FileSystem.Basic
import WorkflowManifest.Manifest
import WorkflowManifest.Pipeline

/-!
Jobs on a host: read an export, convert it, write the manifest. The host has the files, a place to
print to, and a log; `World` is a host as data.
-/

namespace WorkflowManifest

class Host (m : Type → Type) where
  read : String → m (Except SystemError ByteArray)
  isDirectory : String → m Bool
  makeDirectory : String → m (Except SystemError Unit)
  write : String → String → m (Except SystemError Unit)
  print : String → m (Except SystemError Unit)
  note : Event → m Unit

inductive Target where
  | stdout
  | file (path : String)
  deriving DecidableEq

/-- Work on a host that may end in a problem. What it did before stays done. -/
abbrev Job (m : Type → Type) := ExceptT Problem m

namespace Job

variable {m : Type → Type} [Monad m] [Host m]

def note (e : Event) : Job m Unit := ExceptT.lift (Host.note e)

def ofExcept (r : Except Problem α) : Job m α := ExceptT.mk (pure r)

def require (problem : ε → Problem) (action : m (Except ε α)) : Job m α :=
  ExceptT.mk (do return (← action).mapError problem)

def readText (path : String) : Job m String := do
  let content ← require (fun e => .unread path (.system e)) (Host.read path)
  match String.fromUTF8? content with
  | some text => pure text
  | none => throw (.unread path .notText)

def read (path : String) : Job m Document := do
  note (.reading path)
  let text ← readText path
  match Document.read text with
  | .ok d =>
    note (.parsed d.size)
    pure d
  | .error failure => throw (.unparsed path failure)

def extract (path : String) : Job m (List Document) := do
  let d ← read path
  pure [d]

def transform (c : Converter) (d : Document) : Job m Resource := do
  (c.events d).forM note
  pure (c.convert d)

def makeDirectories : List String → m (Except SystemError Unit)
  | [] => pure (.ok ())
  | path :: above => do
    match ← Host.makeDirectory path with
    | .ok () => pure (.ok ())
    | .error .notFound =>
      match ← makeDirectories above with
      | .error e => pure (.error e)
      | .ok () => settle path (← Host.makeDirectory path)
    | .error e => settle path (.error e)
where
  settle (path : String) : Except SystemError Unit → m (Except SystemError Unit)
    | .ok () => pure (.ok ())
    | .error e => do return if ← Host.isDirectory path then .ok () else .error e

def prepareDirectory (path : String) : Job m Unit :=
  match (Path.above path).takeWhile (· ≠ "") with
  | [] => pure ()
  | directory :: above => require (.noDirectory directory) (makeDirectories (directory :: above))

def write (target : Target) (resources : List Resource) : Job m Unit := do
  let text ← ofExcept (Manifest.render resources)
  match target with
  | .stdout => require .unprinted (Host.print text)
  | .file path =>
    prepareDirectory path
    require (.unwritten path) (Host.write path text)
    note (.wrote path)

def load (target : Target) (resources : List Resource) : Job m Nat := do
  write target resources
  pure resources.length

def pipeline (c : Converter) (input : String) (target : Target) :
    Pipeline (Job m) Document Resource where
  extract := extract input
  transform := transform c
  load := load target

def convertFile (input : String) (options : Options) (target : Target) : Job m Nat := do
  note (.converting input options.active options.inNamespace)
  let count ← (pipeline (.ofOptions options) input target).run note
  note (.finished count)
  pure count

def runStages (c : Converter) (input : String) (target : Target) : Job m Nat := do
  let documents ← extract input
  let resources ← Pipeline.transformAll (transform c) documents
  load target resources

end Job

structure World where
  files : FileSystem
  stdoutFull : Bool := false
  stdout : String := ""
  log : List Event := []

namespace World

def change (f : FileSystem → Except SystemError FileSystem) (w : World) :
    Except SystemError Unit × World :=
  match f w.files with
  | .ok files => (.ok (), { w with files })
  | .error e => (.error e, w)

def print (text : String) (w : World) : Except SystemError Unit × World :=
  if w.stdoutFull && !text.isEmpty then (.error .noSpace, w)
  else (.ok (), { w with stdout := w.stdout ++ text })

end World

instance : Host (StateM World) where
  read path w := (w.files.read path, w)
  isDirectory path w := (w.files.isDirectory path, w)
  makeDirectory path w := w.change (·.makeDirectory path)
  write path text w := w.change (·.write path text.toUTF8)
  print text w := w.print text
  note e w := ((), { w with log := w.log ++ [e] })

end WorkflowManifest

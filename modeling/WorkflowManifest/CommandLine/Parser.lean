import WorkflowManifest.CommandLine.InstanceArguments
import WorkflowManifest.CommandLine.Rejection
import WorkflowManifest.Job

/-!
Reading a command line from left to right. A value is only looked at when the argument after it
has been recognised, so that an argument that nobody knows is reported before a bad value in front
of it.
-/

namespace WorkflowManifest.CommandLine

structure Given where
  file : Option String := none
  inNamespace : Option String := none
  inactive : Bool := false
  syncPolicy : Option SyncPolicy := none
  ref : InstanceArguments := {}
  output : Option String := none
  debug : Bool := false
  deriving DecidableEq

inductive Pending where
  | nothing
  | file (value : String)
  | option (o : ValueOption) (value : Option String)
  deriving DecidableEq

structure State where
  given : Given := {}
  pending : Pending := .nothing
  fileSeen : Bool := false
  escaped : Bool := false
  deriving DecidableEq

inductive Stop where
  | rejected (r : Rejection)
  | shortHelp
  | longHelp
  | version
  deriving DecidableEq

structure Request where
  file : String
  options : Options
  target : Target
  debug : Bool
  deriving DecidableEq

def lowerText (s : String) : List Char := s.toList.map Char.toLower

def readPolicy? (value : String) : Option SyncPolicy :=
  SyncPolicy.all.find? fun p => lowerText p.name = lowerText value

def Given.has (g : Given) : ValueOption → Bool
  | .inNamespace => g.inNamespace.isSome
  | .syncPolicy => g.syncPolicy.isSome
  | .url => g.ref.url.isSome
  | .service => g.ref.service.isSome
  | .serviceNamespace => g.ref.inNamespace.isSome
  | .port => g.ref.port.isSome
  | .secret => g.ref.secret.isSome
  | .secretKey => g.ref.secretKey.isSome
  | .output => g.output.isSome

def Given.set (g : Given) (value : String) : ValueOption → Except Rejection Given
  | .inNamespace => .ok { g with inNamespace := some value }
  | .syncPolicy =>
    if value.isEmpty then .error (.noValue (.option .syncPolicy))
    else match readPolicy? value with
      | some p => .ok { g with syncPolicy := some p }
      | none => .error (.badPolicy value)
  | .url => .ok { g with ref := { g.ref with url := some value } }
  | .service => .ok { g with ref := { g.ref with service := some value } }
  | .serviceNamespace => .ok { g with ref := { g.ref with inNamespace := some value } }
  | .port =>
    match readPortNumber value with
    | .ok p => .ok { g with ref := { g.ref with port := some p } }
    | .error e => .error (.badPortNumber value e)
  | .secret => .ok { g with ref := { g.ref with secret := some value } }
  | .secretKey => .ok { g with ref := { g.ref with secretKey := some value } }
  | .output =>
    if value.isEmpty then .error (.noValue (.option .output))
    else .ok { g with output := some value }

def Given.settle (g : Given) : Pending → Except Rejection Given
  | .nothing => .ok g
  | .file value =>
    if value.isEmpty then .error (.noValue .workflowFile) else .ok { g with file := some value }
  | .option o none => .error (.noValue (.option o))
  | .option o (some value) =>
    if g.has o then .error (.repeated (.option o)) else g.set value o

def Given.raise (g : Given) : Flag → Except Stop Given
  | .inactive =>
    if g.inactive then .error (.rejected (.repeated (.flag .inactive)))
    else .ok { g with inactive := true }
  | .debug =>
    if g.debug then .error (.rejected (.repeated (.flag .debug)))
    else .ok { g with debug := true }
  | .help => .error .longHelp
  | .version => .error .version

namespace State

def settled (s : State) : Except Stop Given := (s.given.settle s.pending).mapError .rejected

def takeOption (s : State) (o : ValueOption) : Option String → Except Stop State
  | none => do
    let given ← s.settled
    return { s with given, pending := .option o none }
  | some value => do
    let given ← s.settled
    let given ← (given.settle (.option o (some value))).mapError .rejected
    return { s with given, pending := .nothing }

def takeFlag (s : State) (f : Flag) : Except Stop State := do
  let given ← s.settled
  let given ← given.raise f
  return { s with given, pending := .nothing }

def takeFile (s : State) (value : String) : Except Stop State :=
  if s.fileSeen then .error (.rejected (.unknown value))
  else do
    let given ← s.settled
    return { s with given, pending := .file value, fileSeen := true }

def splitValue (cs : List Char) : String × Option String :=
  (String.ofList (cs.takeWhile (· ≠ '=')),
    match cs.dropWhile (· ≠ '=') with
    | [] => none
    | _ :: value => some (String.ofList value))

def takeLong (s : State) (cs : List Char) : Except Stop State :=
  let (name, value) := splitValue cs
  match Argument.ofName? name, value with
  | some (.option o), value => s.takeOption o value
  | some (.flag f), none => s.takeFlag f
  | some (.flag f), some value => .error (.rejected (.unwantedValue f value))
  | _, _ => .error (.rejected (.unknown ("--" ++ name)))

def attached : List Char → Option String
  | [] => none
  | '=' :: value => some (String.ofList value)
  | value => some (String.ofList value)

/-- Both flags with a letter end the reading, so that letters after theirs do not matter. -/
def takeShort (s : State) (letter : Char) (cs : List Char) : Except Stop State :=
  match Argument.ofLetter? letter with
  | some (.option o) => s.takeOption o (attached cs)
  | some (.flag .help) => do
    let _ ← s.settled
    .error .shortHelp
  | some (.flag f) => s.takeFlag f
  | _ => .error (.rejected (.unknown (String.ofList ['-', letter])))

def takePlain (s : State) (arg : String) : Except Stop State :=
  match s.pending with
  | .option o none => .ok { s with pending := .option o (some arg) }
  | _ => s.takeFile arg

def step (s : State) (arg : String) : Except Stop State :=
  if s.escaped then s.takeFile arg
  else match arg.toList with
    | ['-', '-'] => .ok { s with escaped := true }
    | '-' :: '-' :: cs => s.takeLong cs
    | '-' :: letter :: cs => s.takeShort letter cs
    | _ => s.takePlain arg

end State

namespace Given

def missing (g : Given) : List Argument :=
  (if g.ref.secretKey.isSome && g.ref.secret.isNone then [.option .secret] else []) ++
    if g.file.isNone then [.workflowFile] else []

def target (g : Given) : Target :=
  match g.output with
  | none => .stdout
  | some path => .file path

def request (g : Given) (instanceRef : Option InstanceRef) : Request where
  file := g.file.getD ""
  options :=
    { inNamespace := g.inNamespace.getD defaultNamespace
      active := !g.inactive
      syncPolicy := g.syncPolicy
      instanceRef }
  target := g.target
  debug := g.debug

end Given

def read (args : List String) : Except Stop Given := do
  let s ← args.foldlM State.step {}
  let given ← s.settled
  if given.missing.isEmpty then return given
  else .error (.rejected (.missing given.missing))

def Given.parts (g : Given) : Except Problem Request := g.ref.instanceRef.map g.request

end WorkflowManifest.CommandLine

import WorkflowManifest.Entries
import WorkflowManifest.FileSystem.Error
import WorkflowManifest.FileSystem.Path

/-!
A file system as data: what stands at each place, and the directory that relative paths start at.
Every name on the way to a file has to be a directory that exists, also before a step back up.
-/

namespace WorkflowManifest

abbrev Place := List String

-- Contents are compared as the core library does, also beside a library with a way of its own.
attribute [local instance (high)] ByteArray.instDecidableEq

/-- Besides files and directories there are a device that is always full and one that swallows
everything and holds nothing. -/
inductive Entry where
  | directory
  | file (content : ByteArray)
  | full
  | sink
  deriving DecidableEq

structure FileSystem where
  entries : Entries Place Entry
  workingDirectory : Place

namespace FileSystem

def maxNameBytes : Nat := 255
def maxPathBytes : Nat := 4095

def find? (fs : FileSystem) (place : Place) : Option Entry :=
  if place.isEmpty then some .directory else fs.entries.find? place

def put (fs : FileSystem) (place : Place) (entry : Entry) : FileSystem :=
  { fs with entries := fs.entries.insert place entry }

inductive Found where
  | existing (place : Place) (entry : Entry)
  | vacant (place : Place)

def lookUp (fs : FileSystem) (directory : Place) (name : String) : Except SystemError Found :=
  if name = "." then .ok (.existing directory .directory)
  else if name = ".." then .ok (.existing directory.dropLast .directory)
  else if maxNameBytes < name.utf8ByteSize then .error .nameTooLong
  else match fs.find? (directory ++ [name]) with
    | some entry => .ok (.existing (directory ++ [name]) entry)
    | none => .ok (.vacant (directory ++ [name]))

def enter (fs : FileSystem) (directory : Place) (name : String) : Except SystemError Place := do
  match ← fs.lookUp directory name with
  | .existing place .directory => .ok place
  | .existing _ _ => .error .notDirectory
  | .vacant _ => .error .notFound

def parent (fs : FileSystem) (path : String) : Except SystemError Place :=
  if path.contains '\x00' then .error .nullInPath
  else if path.isEmpty then .error .notFound
  else if maxPathBytes < path.utf8ByteSize then .error .nameTooLong
  else (Path.names path).dropLast.foldlM fs.enter
    (if Path.isAbsolute path then [] else fs.workingDirectory)

def resolve (fs : FileSystem) (path : String) : Except SystemError Found := do
  let directory ← fs.parent path
  match (Path.names path).getLast? with
  | some name => fs.lookUp directory name
  | none => .ok (.existing directory .directory)

def isDirectory (fs : FileSystem) (path : String) : Bool :=
  match fs.resolve path with
  | .ok (.existing _ .directory) => true
  | _ => false

def read (fs : FileSystem) (path : String) : Except SystemError ByteArray := do
  match ← fs.resolve path with
  | .vacant _ => .error .notFound
  | .existing _ .directory => .error .isDirectory
  | .existing _ entry =>
    if Path.endsInSlash path then .error .notDirectory
    else match entry with
      | .file content => .ok content
      | .full => .error .outOfMemory
      | _ => .ok ByteArray.empty

def makeDirectory (fs : FileSystem) (path : String) : Except SystemError FileSystem := do
  match ← fs.resolve path with
  | .existing _ _ => .error .exists
  | .vacant place => .ok (fs.put place .directory)

/-- A path that ends in a slash names a directory, which cannot be written, also where none is. -/
def write (fs : FileSystem) (path : String) (content : ByteArray) :
    Except SystemError FileSystem := do
  if Path.endsInSlash path then
    let _ ← fs.parent path
    .error .isDirectory
  else match ← fs.resolve path with
    | .existing _ .directory => .error .isDirectory
    | .existing _ .full => if content.isEmpty then .ok fs else .error .noSpace
    | .existing _ .sink => .ok fs
    | .existing place _ | .vacant place => .ok (fs.put place (.file content))

end FileSystem

end WorkflowManifest

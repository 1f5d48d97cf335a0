import WorkflowManifest.Program

namespace WorkflowManifest

abbrev Console := ReaderT LogFilter IO

namespace Console

def systemError : IO.Error → SystemError
  | .noFileOrDirectory .. => .notFound
  | .alreadyExists .. => .exists
  | .inappropriateType .. => .isDirectory
  | .resourceExhausted .. => .noSpace
  | e => .other (toString e)

def attempt (action : IO α) : Console (Except SystemError α) := do
  match ← action.toBaseIO with
  | .ok a => return .ok a
  | .error e => return .error (systemError e)

def print (text : String) : IO Unit := do
  let stdout ← IO.getStdout
  stdout.putStr text
  stdout.flush

end Console

instance : Host Console where
  read path := Console.attempt (IO.FS.readBinFile path)
  isDirectory path := do try (← IO.FS.realPath path).isDir catch _ => return false
  makeDirectory path := Console.attempt (IO.FS.createDir path)
  write path text := Console.attempt (IO.FS.writeFile path text)
  print text := Console.attempt (Console.print text)
  note e := do if (← read).shows e then IO.eprint e.line

end WorkflowManifest

open WorkflowManifest in
def main (args : List String) : IO UInt32 := do
  match CommandLine.read args with
  | .error stop =>
    Console.print stop.stdout
    IO.eprint stop.stderr
    return .ofNat stop.exit
  | .ok given =>
    let filter := Program.logFilter (← IO.getEnv "LOG_LEVEL") given.debug
    filter.warnings.forM IO.eprintln
    let result ← (Program.job given : Job Console Nat).run.run filter
    IO.eprint (Program.reportOf (fun _ => none) result)
    return .ofNat (Program.exitOf result)

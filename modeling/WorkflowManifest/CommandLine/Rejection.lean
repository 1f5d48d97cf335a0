import WorkflowManifest.CommandLine.Argument
import WorkflowManifest.CommandLine.PortNumber
import WorkflowManifest.Resource

namespace WorkflowManifest.CommandLine

inductive Rejection where
  | unknown (argument : String)
  | noValue (argument : Argument)
  | repeated (argument : Argument)
  | unwantedValue (flag : Flag) (value : String)
  | badPolicy (value : String)
  | badPortNumber (value : String) (error : PortNumberError)
  | missing (arguments : List Argument)
  deriving DecidableEq

namespace Rejection

def possiblePolicies : String :=
  "\n  [possible values: " ++ ", ".intercalate (SyncPolicy.all.map SyncPolicy.name) ++ "]"

def valueHint : Argument → String
  | .option .syncPolicy => possiblePolicies
  | _ => ""

def message (shown : String → String) : Rejection → String
  | .unknown argument => s!"error: unexpected argument '{shown argument}' found"
  | .noValue argument =>
    s!"error: a value is required for '{argument.usage}' but none was supplied" ++
      valueHint argument
  | .repeated argument =>
    s!"error: the argument '{argument.usage}' cannot be used multiple times"
  | .unwantedValue flag value =>
    s!"error: unexpected value '{shown value}' for '--{flag.name}' found; no more were expected"
  | .badPolicy value =>
    s!"error: invalid value '{shown value}' for '{(Argument.option .syncPolicy).usage}'" ++
      possiblePolicies
  | .badPortNumber value error =>
    s!"error: invalid value '{shown value}' for '{(Argument.option .port).usage}': " ++
      error.message
  | .missing arguments =>
    "error: the following required arguments were not provided:" ++
      String.join (arguments.map fun a => "\n  " ++ a.usage)

end Rejection

end WorkflowManifest.CommandLine

import WorkflowManifest.CommandLine.Help
import WorkflowManifest.CommandLine.Parser
import WorkflowManifest.Text.Terminal

namespace WorkflowManifest.CommandLine.Stop

def exit : Stop → Nat
  | .rejected _ => 2
  | .shortHelp | .longHelp | .version => 0

def stdout : Stop → String
  | .rejected _ => ""
  | .shortHelp => shortHelpText
  | .longHelp => longHelpText
  | .version => versionText

def stderr : Stop → String
  | .rejected r => r.message Text.Terminal.sent ++ "\n"
  | .shortHelp | .longHelp | .version => ""

end WorkflowManifest.CommandLine.Stop

namespace WorkflowManifest.CommandLine

inductive ValueOption where
  | inNamespace
  | syncPolicy
  | url
  | service
  | serviceNamespace
  | port
  | secret
  | secretKey
  | output
  deriving DecidableEq

inductive Flag where
  | inactive
  | debug
  | help
  | version
  deriving DecidableEq

namespace ValueOption

def all : List ValueOption :=
  [.inNamespace, .syncPolicy, .url, .service, .serviceNamespace, .port, .secret, .secretKey,
    .output]

def name : ValueOption → String
  | .inNamespace => "namespace"
  | .syncPolicy => "sync-policy"
  | .url => "n8n-url"
  | .service => "n8n-service"
  | .serviceNamespace => "n8n-namespace"
  | .port => "n8n-port"
  | .secret => "api-key-secret"
  | .secretKey => "api-key-secret-key"
  | .output => "output"

def placeholder : ValueOption → String
  | .inNamespace | .serviceNamespace => "NAMESPACE"
  | .syncPolicy => "SYNC_POLICY"
  | .url => "URL"
  | .service => "NAME"
  | .port => "PORT"
  | .secret => "SECRET"
  | .secretKey => "KEY"
  | .output => "FILE"

def ofLetter? (c : Char) : Option ValueOption :=
  if c = 'n' then some .inNamespace else if c = 'o' then some .output else none

end ValueOption

namespace Flag

def all : List Flag := [.inactive, .debug, .help, .version]

def name : Flag → String
  | .inactive => "inactive"
  | .debug => "debug"
  | .help => "help"
  | .version => "version"

def ofLetter? (c : Char) : Option Flag :=
  if c = 'h' then some .help else if c = 'V' then some .version else none

end Flag

inductive Argument where
  | workflowFile
  | option (o : ValueOption)
  | flag (f : Flag)
  deriving DecidableEq

namespace Argument

def ofName? (name : String) : Option Argument :=
  match ValueOption.all.find? (·.name = name) with
  | some o => some (.option o)
  | none => (Flag.all.find? (·.name = name)).map .flag

def ofLetter? (c : Char) : Option Argument :=
  match ValueOption.ofLetter? c with
  | some o => some (.option o)
  | none => (Flag.ofLetter? c).map .flag

def usage : Argument → String
  | .workflowFile => "<WORKFLOW_FILE>"
  | .option o => s!"--{o.name} <{o.placeholder}>"
  | .flag f => s!"--{f.name}"

end Argument

end WorkflowManifest.CommandLine

import WorkflowManifest.Problem
import WorkflowManifest.Resource

namespace WorkflowManifest.CommandLine

structure InstanceArguments where
  url : Option String := none
  service : Option String := none
  inNamespace : Option String := none
  port : Option UInt16 := none
  secret : Option String := none
  secretKey : Option String := none
  deriving DecidableEq

namespace InstanceArguments

def secretRef (a : InstanceArguments) : Except Problem (Option SecretKey) :=
  match a.secret, a.secretKey with
  | some name, key => .ok (some { name, key })
  | none, some key => .error (.keyWithoutSecret key)
  | none, none => .ok none

def instanceRef (a : InstanceArguments) : Except Problem (Option InstanceRef) :=
  a.secretRef.map fun secret =>
    let ref : InstanceRef :=
      { url := a.url, name := a.service, inNamespace := a.inNamespace, port := a.port, secret }
    (some ref).filter fun r => !r.isEmpty

end InstanceArguments

end WorkflowManifest.CommandLine

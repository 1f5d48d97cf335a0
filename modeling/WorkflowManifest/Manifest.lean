import WorkflowManifest.Problem
import WorkflowManifest.Resource

namespace WorkflowManifest.Manifest

def separator : String := "---\n"

def render : List Resource → Except Problem String
  | [] => .ok ""
  | r :: rs =>
    match r.yaml with
    | .error error => .error (.unwritable r.name error)
    | .ok text => (render rs).map (separator ++ text ++ ·)

end WorkflowManifest.Manifest

import WorkflowManifest.Pattern.Meaning
import WorkflowManifest.Pattern.Reader
import WorkflowManifest.Pattern.Size

namespace WorkflowManifest.Pattern

inductive Refusal where
  | malformed (f : Failure)
  | tooLarge
  deriving DecidableEq

def Refusal.text (pattern : String) : Refusal → String
  | .malformed f => f.report pattern
  | .tooLarge => s!"Compiled regex exceeds size limit of {sizeLimit} bytes."

def read (pattern : String) : Except Refusal Expr :=
  match readTree pattern >>= Node.meaning {} with
  | .error f => .error (.malformed f)
  | .ok (e, _) => if e.isTooLarge then .error .tooLarge else .ok e

end WorkflowManifest.Pattern

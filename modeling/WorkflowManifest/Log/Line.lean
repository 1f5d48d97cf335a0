import WorkflowManifest.Log.Event
import WorkflowManifest.Text.Terminal

namespace WorkflowManifest

namespace Event

def indented (cs : List Char) : List Char :=
  cs.flatMap fun c => if c = '\n' then ['\n', ' ', ' ', ' ', ' '] else [c]

def line (e : Event) : String :=
  let level := e.level.name
  let padded := level ++ String.ofList (List.replicate (5 - level.length) ' ')
  let text := String.ofList (indented e.colouredText.toList)
  Text.Terminal.sent (s!"[{padded} {e.source}] " ++ text ++ "\n")

end Event

end WorkflowManifest

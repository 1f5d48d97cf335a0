import WorkflowManifest.Json.Basic

namespace WorkflowManifest.Settings

def exportedFields : List String := ["availableInMCP"]

/-- Drops the listed fields of an object, which vanishes with its last one. What is no object
stays as it is. -/
def filter (fields : List String) : Json → Option Json
  | .obj entries =>
    match entries.filter fun (key, _) => !fields.contains key with
    | [] => none
    | e :: es => some (.obj (e :: es))
  | j => some j

end WorkflowManifest.Settings

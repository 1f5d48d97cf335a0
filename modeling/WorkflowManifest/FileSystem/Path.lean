import WorkflowManifest.Text.Split

namespace WorkflowManifest.Path

def names (path : String) : List String := (Text.pieces '/' path).filter (· ≠ "")

def isAbsolute (path : String) : Bool := path.toList.head? = some '/'

def endsInSlash (path : String) : Bool := path.toList.getLast? = some '/'

def anchor (path : String) : String :=
  match path.toList with
  | '/' :: _ => "/"
  | ['.'] => "."
  | '.' :: '/' :: _ => "."
  | _ => ""

def isIdle (piece : String) : Bool := piece = "" || piece = "."

def aboveFrom (start : String) : List String → List String
  | [] => []
  | piece :: pieces =>
    if isIdle piece then aboveFrom start pieces
    else (start ++ "/".intercalate (pieces.dropWhile isIdle).reverse) :: aboveFrom start pieces

/-- The directories above a path as the path spells them, innermost first. The outermost may be
empty, which is the working directory. -/
def above (path : String) : List String :=
  let start := anchor path
  aboveFrom start (Text.pieces '/' (String.ofList (path.toList.drop start.length))).reverse

end WorkflowManifest.Path

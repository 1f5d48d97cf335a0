import WorkflowManifest.Json.Basic
import WorkflowManifest.Yaml.Scalar

/-!
Block layout. The items of a list under a key stand at the indentation of the key, everything else
two columns further in. Each node ends with its line.
-/

namespace WorkflowManifest.Yaml

def step : Nat := 2

/-- A key of one line and no more than this many bytes stands before a colon. A longer one is
introduced by a question mark. -/
def maxKeyBytes : Nat := 128

def isSimpleKey (key : String) : Bool :=
  !isMultiline key.toList && key.utf8ByteSize ≤ maxKeyBytes

def numberChars (n : Json.Number) : List Char := n.charsWith []

def line (cs : List Char) : List Char := ' ' :: cs ++ lineEnd

mutual

def underKey (indent : Nat) : Json → List Char
  | .null => line "null".toList
  | .bool b => line (Json.literal b)
  | .num n => line (numberChars n)
  | .str s => ' ' :: scalarLines (indent + step) s
  | .arr [] => line "[]".toList
  | .arr (x :: xs) => '\n' :: spaces indent ++ itemChars indent (x :: xs)
  | .obj [] => line "{}".toList
  | .obj (e :: es) => '\n' :: spaces (indent + step) ++ entryChars (indent + step) (e :: es)

def besideMark (indent : Nat) : Json → List Char
  | .null => line "null".toList
  | .bool b => line (Json.literal b)
  | .num n => line (numberChars n)
  | .str s => ' ' :: scalarLines (indent + step) s
  | .arr [] => line "[]".toList
  | .arr (x :: xs) => ' ' :: itemChars (indent + step) (x :: xs)
  | .obj [] => line "{}".toList
  | .obj (e :: es) => ' ' :: entryChars (indent + step) (e :: es)

def itemChars (indent : Nat) : List Json → List Char
  | [] => []
  | x :: xs =>
    '-' :: besideMark indent x ++ (if xs.isEmpty then [] else spaces indent) ++ itemChars indent xs

def entryChars (indent : Nat) : List (String × Json) → List Char
  | [] => []
  | (k, x) :: es =>
    (if isSimpleKey k then scalarChars (indent + step) k.toList ++ ':' :: underKey indent x
    else '?' :: ' ' :: scalarLines (indent + step) k ++
      spaces indent ++ ':' :: besideMark indent x) ++
      (if es.isEmpty then [] else spaces indent) ++ entryChars indent es

end

def document (entries : List (String × Json)) : String := String.ofList (entryChars 0 entries)

end WorkflowManifest.Yaml

namespace WorkflowManifest.Text

def split (separator : Char) : List Char → List (List Char)
  | [] => [[]]
  | c :: cs =>
    if c = separator then [] :: split separator cs
    else match split separator cs with
      | [] => [[c]]
      | word :: words => (c :: word) :: words

def pieces (separator : Char) (s : String) : List String :=
  (split separator s.toList).map String.ofList

end WorkflowManifest.Text

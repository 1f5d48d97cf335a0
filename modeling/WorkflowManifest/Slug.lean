import WorkflowManifest.Text.Lowercase

namespace WorkflowManifest.Slug

def maxLength : Nat := 63

def isSeparator (c : Char) : Bool :=
  Text.isBlank c || (0x1c ≤ c.toNat && c.toNat ≤ 0x1f) || c = '_'

def isAllowed (c : Char) : Bool := c.isLower || c.isDigit || c = '-'

def hyphenate (p : Char → Bool) : List Char → List Char
  | [] => []
  | c :: cs =>
    if p c then if cs.head?.any p then hyphenate p cs else '-' :: hyphenate p cs
    else c :: hyphenate p cs

def trimStart (cs : List Char) : List Char := cs.dropWhile (· = '-')

def trim (cs : List Char) : List Char := (trimStart (trimStart cs).reverse).reverse

def normalizeChars (cs : List Char) : List Char :=
  let lowered := Text.lowercase cs
  let separated := hyphenate isSeparator lowered
  let allowed := separated.filter isAllowed
  trim (hyphenate (· = '-') allowed)

def normalize (name : String) : String := String.ofList (normalizeChars name.toList)

/-- The cut may leave a hyphen at the end. -/
def truncate (name : String) : String := String.ofList (name.toList.take maxLength)

def slugify (name : String) : String := truncate (normalize name)

end WorkflowManifest.Slug

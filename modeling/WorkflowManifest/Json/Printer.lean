import WorkflowManifest.Json.Basic
import WorkflowManifest.Text.Hex

namespace WorkflowManifest.Json

def escape (c : Char) : List Char :=
  match c with
  | '"' => ['\\', '"']
  | '\\' => ['\\', '\\']
  | '\x08' => ['\\', 'b']
  | '\x0c' => ['\\', 'f']
  | '\n' => ['\\', 'n']
  | '\r' => ['\\', 'r']
  | '\t' => ['\\', 't']
  | c =>
    if c.toNat < 0x20 then
      ['\\', 'u', '0', '0', Text.hexDigit (c.toNat / 16), Text.hexDigit (c.toNat % 16)]
    else [c]

def quote (s : String) : List Char := '"' :: s.toList.flatMap escape ++ ['"']

mutual

def chars : Json → List Char
  | .null => "null".toList
  | .bool b => literal b
  | .num n => n.chars
  | .str s => quote s
  | .arr items => '[' :: itemChars items ++ [']']
  | .obj entries => '\x7b' :: entryChars entries ++ ['\x7d']

def itemChars : List Json → List Char
  | [] => []
  | [x] => x.chars
  | x :: y :: xs => x.chars ++ ',' :: itemChars (y :: xs)

def entryChars : List (String × Json) → List Char
  | [] => []
  | [(k, x)] => quote k ++ ':' :: x.chars
  | (k, x) :: e :: es => quote k ++ ':' :: x.chars ++ ',' :: entryChars (e :: es)

end

def text (j : Json) : String := String.ofList j.chars

end WorkflowManifest.Json

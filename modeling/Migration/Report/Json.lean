import Migration.Number.Shortest

/-!
# JSON documents

A JSON value whose objects keep the order of their members, and its text with two blanks of
indentation a level.
-/

namespace Migration

open Number (Binary64)

inductive Json where
  | null
  | bool (b : Bool)
  | int (n : Int)
  | float (x : Binary64)
  | text (s : String)
  | array (items : List Json)
  | object (members : List (String × Json))
  deriving Inhabited

namespace Json

def hexDigit (n : Nat) : Char :=
  (Nat.toDigits 16 n).getLastD '0'

/-- Escapes quotes, backslashes and control characters, and nothing else. -/
def escape (c : Char) : List Char :=
  if c = '"' then ['\\', '"']
  else if c = '\\' then ['\\', '\\']
  else if c = '\n' then ['\\', 'n']
  else if c = '\r' then ['\\', 'r']
  else if c = '\t' then ['\\', 't']
  else if c = '\x08' then ['\\', 'b']
  else if c = '\x0c' then ['\\', 'f']
  else if c.toNat < 0x20 then
    ['\\', 'u', '0', '0', hexDigit (c.toNat / 16), hexDigit (c.toNat % 16)]
  else [c]

def quote (s : String) : String :=
  String.ofList ('"' :: s.toList.flatMap escape ++ ['"'])

def indent (level : Nat) : String :=
  "\n" ++ String.ofList (List.replicate (2 * level) ' ')

/-- Lays out the texts of the parts of an array or object. -/
def layOut (level : Nat) (opening closing : String) (parts : List String) : String :=
  if parts = [] then opening ++ closing
  else
    opening ++ ",".intercalate (parts.map fun part => indent (level + 1) ++ part) ++
      indent level ++ closing

mutual
/-- The text of a value that begins at a level of indentation. A number that is not finite is
written as null. -/
def textAt (level : Nat) : Json → String
  | .null => "null"
  | .bool b => if b then "true" else "false"
  | .int n => n.repr
  | .float (.finite negative significand exponent) =>
      Binary64.jsonText negative significand exponent
  | .float _ => "null"
  | .text s => quote s
  | .array items => layOut level "[" "]" (itemTexts (level + 1) items)
  | .object members => layOut level r"{" r"}" (memberTexts (level + 1) members)

def itemTexts (level : Nat) : List Json → List String
  | [] => []
  | item :: items => textAt level item :: itemTexts level items

def memberTexts (level : Nat) : List (String × Json) → List String
  | [] => []
  | (name, value) :: members =>
      (quote name ++ ": " ++ textAt level value) :: memberTexts level members
end

/-- The text of a document. -/
def render (value : Json) : String :=
  textAt 0 value

end Json

end Migration

import Migration.Number.Shortest

/-!
# Attribute values

What an attribute holds once properties are resolved. A value has a display text, in which lists
keep their brackets, and a plain text, in which lists read like comma separated text and nothing
stands for null.
-/

namespace Migration

open Number (Binary64)

inductive Value where
  | null
  | bool (b : Bool)
  | int (n : Int64)
  | float (x : Binary64)
  | text (s : String)
  | list (items : List Value)
  deriving Inhabited

namespace Value

def isNull : Value → Bool
  | .null => true
  | _ => false

def text? : Value → Option String
  | .text s => some s
  | _ => none

def bool? : Value → Option Bool
  | .bool b => some b
  | _ => none

def int? : Value → Option Int64
  | .int n => some n
  | _ => none

def boolText (b : Bool) : String :=
  if b then "true" else "false"

def intText (n : Int64) : String :=
  n.toInt.repr

mutual
/-- The text of a value in messages. -/
def display : Value → String
  | .null => "null"
  | .bool b => boolText b
  | .int n => intText n
  | .float x => x.toText
  | .text s => s
  | .list items => "[" ++ ", ".intercalate (displays items) ++ "]"

def displays : List Value → List String
  | [] => []
  | item :: items => display item :: displays items
end

mutual
/-- The text of a value where text is asked for. Null has none, and a list joins the texts of its
items with commas. -/
def plain? : Value → Option String
  | .null => none
  | .list items => some (",".intercalate (plains items))
  | .bool b => some (boolText b)
  | .int n => some (intText n)
  | .float x => some x.toText
  | .text s => some s

def plains : List Value → List String
  | [] => []
  | item :: items => (plain? item).toList ++ plains items
end

/-- The name of a value's type. -/
def typeName : Value → String
  | .null => "null"
  | .bool _ => "boolean"
  | .int _ => "integer"
  | .float _ => "number"
  | .text _ => "string"
  | .list _ => "list"

example : (Value.list [.null, .text "a", .list [.int 5]]).display = "[null, a, [5]]" := by decide
example : (Value.list [.null, .text "a", .list []]).plain? = some "a," := by decide

end Value

end Migration

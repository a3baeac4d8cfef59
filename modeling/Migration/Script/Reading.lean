import Migration.Text.Split

/-!
# Steps of reading a script

A step reads something from the front of what is left of a script. It may find nothing to read, so
that another step can be tried at the same place, or find the script malformed, which is final.
-/

namespace Migration.Script

/-- Why a script cannot be read on. -/
inductive Cause where
  /-- The name of an element is missing. -/
  | name
  /-- A closing bracket is missing. -/
  | closer
  /-- A text has no closing quote. -/
  | quote
  /-- A whole number is out of range. -/
  | number
  /-- A block has no end. -/
  | block

/-- Why and where a script cannot be read on; the place is given by what is left there. -/
structure Fault where
  cause : Cause
  rest : List Char

inductive Reading (α : Type) where
  | found (value : α) (rest : List Char)
  | absent
  | malformed (fault : Fault)

namespace Reading

variable {α β : Type}

def map (f : α → β) : Reading α → Reading β
  | .found value rest => .found (f value) rest
  | .absent => .absent
  | .malformed fault => .malformed fault

/-- Tries another step where the first finds nothing. -/
def orElse (first : Reading α) (second : Unit → Reading α) : Reading α :=
  match first with
  | .found value rest => .found value rest
  | .absent => second ()
  | .malformed fault => .malformed fault

def ofOption : Option (α × List Char) → Reading α
  | some (value, rest) => .found value rest
  | none => .absent

end Reading

/-- A fault in words. -/
inductive Problem where
  | endOfInput
  | unterminatedText
  | missingName (found : String)
  | unexpected (found : String)

def Problem.message : Problem → String
  | .endOfInput => "unexpected end of input (unclosed block or argument list?)"
  | .unterminatedText => "unterminated string literal"
  | .missingName found => s!"expected an element name, found '{found}'"
  | .unexpected found => s!"unexpected input near '{found}'"

/-- The beginning of the line that could not be read, 24 characters at most. -/
def snippet (rest : List Char) : String :=
  String.ofList ((Text.firstLine rest).take 24)

def isQuote (c : Char) : Bool :=
  c = '"' || c = '\''

/-- What a fault is reported as. A quote where a closing bracket is missing is reported like a
text without its closing quote. -/
def Fault.problem (fault : Fault) : Problem :=
  match fault.rest with
  | [] => .endOfInput
  | c :: _ =>
      match fault.cause with
      | .quote => .unterminatedText
      | .closer => if isQuote c then .unterminatedText else .unexpected (snippet fault.rest)
      | .name => .missingName (snippet fault.rest)
      | .number | .block => .unexpected (snippet fault.rest)

/-- How many line feeds a text has. -/
def lineFeeds (s : List Char) : Nat :=
  s.count '\n'

/-- The line of a place in a script with `total` line feeds, counted from one. -/
def lineOf (total : Nat) (rest : List Char) : Nat :=
  total - lineFeeds rest + 1

/-- A script that cannot be read: the line and what is wrong there. -/
structure Malformed where
  line : Nat
  problem : Problem

end Migration.Script

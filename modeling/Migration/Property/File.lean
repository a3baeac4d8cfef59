import Migration.Text.Split

/-!
# Property files

A property file has a pair on each logical line: a key, a separator and a value. A backslash at
the end of a line continues the logical line on the next one, whose indentation is dropped. Blank
lines and lines that begin with `#` or `!` are skipped where a logical line would begin.
-/

namespace Migration.Property

/-- A line that is skipped where a logical line would begin. -/
def isSkipped : List Char → Bool
  | [] => true
  | c :: _ => c = '#' || c = '!'

/-- Whether a line goes on: it ends in a backslash, and not in two. -/
def isContinued (line : List Char) : Bool :=
  match line.reverse with
  | '\\' :: '\\' :: _ => false
  | '\\' :: _ => true
  | _ => false

/-- The logical lines, given the part of the current one that was read before. A logical line that
is not finished at the end of the text is none. -/
def logicalLines (begun : List Char) : List (List Char) → List (List Char)
  | [] => []
  | line :: lines =>
      let line := Text.trimStart line
      if begun = [] ∧ isSkipped line then logicalLines [] lines
      else if isContinued line then logicalLines (begun ++ line.dropLast) lines
      else (begun ++ line) :: logicalLines [] lines

def endsKey (c : Char) : Bool :=
  c = '=' || c = ':' || c = ' ' || c = '\t'

/-- Drops the separator at the beginning of a text: blanks and tabs, and one `=` or `:`. -/
def dropSeparator (s : List Char) : List Char :=
  match s.dropWhile fun c => c = ' ' || c = '\t' with
  | '=' :: rest => rest
  | ':' :: rest => rest
  | rest => rest

/-- The key and the value of a logical line. -/
def pair (line : List Char) : String × String :=
  let key := line.takeWhile fun c => !endsKey c
  let rest := line.dropWhile fun c => !endsKey c
  if rest = [] then (String.ofList line, "")
  else (String.ofList (Text.trimEnd key), String.ofList (Text.trim (dropSeparator rest)))

/-- The pairs of a property file, in order. -/
def parseFile (text : String) : List (String × String) :=
  (logicalLines [] (Text.lines text.toList)).map pair

example : parseFile "# c\na=1\n b: two\nlong = x \\\n   y\nempty" =
    [("a", "1"), ("b", "two"), ("long", "x y"), ("empty", "")] := by decide

end Migration.Property

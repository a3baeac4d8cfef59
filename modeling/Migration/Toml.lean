import Migration.Number.Integer

/-!
# TOML documents

The part of TOML that configurations use: texts, whole numbers, truth values, arrays and tables.
Floating numbers and dates are refused like malformed values. A document is a list of sections with
the pairs of keys and values in each.
-/

namespace Migration.Toml

/-- The names of a dotted key. -/
abbrev Key := List String

inductive Node where
  | text (s : String)
  | int (n : Int64)
  | bool (b : Bool)
  | array (items : List Node)
  | table (pairs : List (Key × Node))

/-- A section has a header, except for the first one of a document. -/
structure Section where
  header : Option Key
  pairs : List (Key × Node)

/-! ## Blanks, comments and lines -/

def isSpace (c : Char) : Bool :=
  c = ' ' || c = '\t'

def skipSpaces (s : List Char) : List Char :=
  s.dropWhile isSpace

/-- A character that may stand in comments and literal texts: a tab, or no control character. -/
def isPrintable (c : Char) : Bool :=
  c = '\t' || (0x20 ≤ c.toNat && c.toNat ≠ 0x7F)

/-- Reads the end of a line. -/
def lineEnd? : List Char → Option (List Char)
  | '\n' :: s => some s
  | '\r' :: '\n' :: s => some s
  | _ => none

/-- Skips blanks, comments and ends of lines. -/
def skipLines (inComment : Bool) : List Char → Option (List Char)
  | [] => some []
  | c :: s =>
      if c = '\n' then skipLines false s
      else if c = '\r' then (if s.head? = some '\n' then skipLines inComment s else none)
      else if inComment then (if isPrintable c then skipLines true s else none)
      else if isSpace c then skipLines false s
      else if c = '#' then skipLines true s
      else some (c :: s)

/-- Reads what may follow a pair or header: blanks, a comment, and the end of the line or of the
document. -/
def finishLine? (s : List Char) : Option (List Char) :=
  let rest :=
    match skipSpaces s with
    | '#' :: comment => comment.dropWhile isPrintable
    | rest => rest
  match rest with
  | [] => some []
  | rest => lineEnd? rest

/-! ## Texts -/

def hexValue? (c : Char) : Option Nat :=
  if c.isDigit then some (Number.digitValue c)
  else if 'a' ≤ c ∧ c ≤ 'f' then some (c.toNat - 'a'.toNat + 10)
  else if 'A' ≤ c ∧ c ≤ 'F' then some (c.toNat - 'A'.toNat + 10)
  else none

/-- The number written by digits of a base up to 16. -/
def ofDigits? (base : Nat) (digits : List Char) : Option Nat :=
  digits.foldlM
    (fun n c => (hexValue? c).bind fun d => if d < base then some (base * n + d) else none) 0

/-- Reads the code point of a character in `width` hexadecimal digits. -/
def codePoint? (width : Nat) (s : List Char) : Option (Char × List Char) :=
  if s.length < width then none
  else
    (ofDigits? 16 (s.take width)).bind fun n =>
      if n.isValidChar then some (Char.ofNat n, s.drop width) else none

/-- Reads an escape behind its backslash. -/
def escape? : List Char → Option (Char × List Char)
  | 'b' :: s => some ('\x08', s)
  | 't' :: s => some ('\t', s)
  | 'n' :: s => some ('\n', s)
  | 'f' :: s => some ('\x0c', s)
  | 'r' :: s => some ('\r', s)
  | '"' :: s => some ('"', s)
  | '\\' :: s => some ('\\', s)
  | 'u' :: s => codePoint? 4 s
  | 'U' :: s => codePoint? 8 s
  | _ => none

/-- Reads the rest of a text between single marks on one line. Escapes are read in texts between
double quotes only. -/
def shortText (mark : Char) : Nat → List Char → Option (List Char × List Char)
  | 0, _ => none
  | _, [] => none
  | fuel + 1, c :: s =>
      if c = mark then some ([], s)
      else if c = '\\' ∧ mark = '"' then do
        let (escaped, s) ← escape? s
        let (text, s) ← shortText mark fuel s
        return (escaped :: text, s)
      else if isPrintable c then do
        let (text, s) ← shortText mark fuel s
        return (c :: text, s)
      else none

/-- Skips blanks and ends of lines. A carriage return alone is neither. -/
def skipBlankLines : List Char → List Char
  | '\r' :: '\n' :: s => skipBlankLines s
  | c :: s => if isSpace c || c = '\n' then skipBlankLines s else c :: s
  | [] => []

/-- The text behind a backslash at the end of a line: all blanks and ends of lines are dropped. -/
def continued? (s : List Char) : Option (List Char) :=
  (lineEnd? (skipSpaces s)).map skipBlankLines

/-- Reads the rest of a text between triple marks. One or two marks may stand before the end. -/
def longText (mark : Char) : Nat → List Char → Option (List Char × List Char)
  | 0, _ => none
  | _, [] => none
  | fuel + 1, c :: s =>
      if c = mark then
        let more := s.takeWhile (· = mark)
        let rest := s.drop more.length
        if more.length < 2 then do
          let (text, rest) ← longText mark fuel rest
          return (c :: more ++ text, rest)
        else if more.length ≤ 4 then some (more.drop 2, rest)
        else none
      else if c = '\n' then do
        let (text, s) ← longText mark fuel s
        return ('\n' :: text, s)
      else if c = '\r' then
        if s.head? = some '\n' then longText mark fuel s else none
      else if c = '\\' ∧ mark = '"' then
        match continued? s with
        | some s => longText mark fuel s
        | none => do
            let (escaped, s) ← escape? s
            let (text, s) ← longText mark fuel s
            return (escaped :: text, s)
      else if isPrintable c then do
        let (text, s) ← longText mark fuel s
        return (c :: text, s)
      else none

/-- Reads a text. The end of a line right behind an opening triple mark is dropped. -/
def text? (s : List Char) : Option (String × List Char) :=
  let read (mark : Char) (s : List Char) : Option (List Char × List Char) :=
    match s with
    | c :: d :: s =>
        if c = mark ∧ d = mark then
          let s := (lineEnd? s).getD s
          longText mark (s.length + 1) s
        else shortText mark (s.length + 3) (c :: d :: s)
    | s => shortText mark (s.length + 1) s
  let found :=
    match s with
    | '"' :: s => read '"' s
    | '\'' :: s => read '\'' s
    | _ => none
  found.map fun (text, rest) => (String.ofList text, rest)

/-! ## Keys -/

def isKeyChar (c : Char) : Bool :=
  c.isAlphanum || c = '_' || c = '-'

/-- Reads a text on one line. -/
def quotedName? : List Char → Option (String × List Char)
  | '"' :: s => (shortText '"' (s.length + 1) s).map fun (text, s) => (String.ofList text, s)
  | '\'' :: s => (shortText '\'' (s.length + 1) s).map fun (text, s) => (String.ofList text, s)
  | _ => none

/-- Reads a name of a key, with or without quotes. -/
def name? (s : List Char) : Option (String × List Char) :=
  let bare := s.takeWhile isKeyChar
  if bare ≠ [] then some (String.ofList bare, s.drop bare.length) else quotedName? s

/-- Reads a dotted key, with blanks around its names. -/
def key? : Nat → List Char → Option (Key × List Char)
  | 0, _ => none
  | fuel + 1, s => do
      let (name, s) ← name? (skipSpaces s)
      match skipSpaces s with
      | '.' :: s =>
          let (names, s) ← key? fuel s
          return (name :: names, s)
      | s => return ([name], s)

/-! ## Values -/

/-- Digits of a base with single underscores between them. -/
def digits? (base : Nat) (s : List Char) : Option Nat :=
  let isUnderscore (c : Char) := c = '_'
  if s = [] ∨ s.head? = some '_' ∨ s.getLast? = some '_' then none
  else if (s.zip (s.drop 1)).any fun pair => isUnderscore pair.1 && isUnderscore pair.2 then none
  else ofDigits? base (s.filter fun c => !isUnderscore c)

/-- The whole number that a word is. -/
def integer? (word : List Char) : Option Int64 :=
  match word with
  | '0' :: 'x' :: s => (digits? 16 s).bind fun n => Number.fit64? n
  | '0' :: 'o' :: s => (digits? 8 s).bind fun n => Number.fit64? n
  | '0' :: 'b' :: s => (digits? 2 s).bind fun n => Number.fit64? n
  | _ =>
      let (negative, s) := Number.takeSign word
      if s.length > 1 ∧ s.head? = some '0' then none
      else
        (digits? 10 s).bind fun n => Number.fit64? (if negative then -(n : Int) else n)

/-- The value that a word without quotes is. -/
def word? (word : List Char) : Option Node :=
  if word = "true".toList then some (.bool true)
  else if word = "false".toList then some (.bool false)
  else (integer? word).map .int

def isWordChar (c : Char) : Bool :=
  c.isAlphanum || c = '_' || c = '-' || c = '+' || c = '.' || c = ':'

mutual
/-- Reads a value. -/
def value? : Nat → List Char → Option (Node × List Char)
  | 0, _ => none
  | fuel + 1, s =>
      match s with
      | '[' :: s => (items? fuel s).map fun (items, s) => (.array items, s)
      | '{' :: s =>
          match skipSpaces s with
          | '}' :: s => some (.table [], s)
          | s => (pairs? fuel s).map fun (pairs, s) => (.table pairs, s)
      | _ =>
          match text? s with
          | some (text, s) => some (.text text, s)
          | none =>
              let word := s.takeWhile isWordChar
              (word? word).map fun node => (node, s.drop word.length)

/-- Reads the items of an array and its closing bracket. A comma may follow the last one. -/
def items? : Nat → List Char → Option (List Node × List Char)
  | 0, _ => none
  | fuel + 1, s => do
      match ← skipLines false s with
      | ']' :: s => return ([], s)
      | s =>
          let (item, s) ← value? fuel s
          match ← skipLines false s with
          | ']' :: s => return ([item], s)
          | ',' :: s =>
              let (items, s) ← items? fuel s
              return (item :: items, s)
          | _ => none

/-- Reads the pairs of a table on one line and its closing brace. -/
def pairs? : Nat → List Char → Option (List (Key × Node) × List Char)
  | 0, _ => none
  | fuel + 1, s => do
      let (pair, s) ← pair? fuel s
      match skipSpaces s with
      | '}' :: s => return ([pair], s)
      | ',' :: s =>
          let (pairs, s) ← pairs? fuel s
          return (pair :: pairs, s)
      | _ => none

/-- Reads a key, an equals sign and a value. -/
def pair? : Nat → List Char → Option ((Key × Node) × List Char)
  | 0, _ => none
  | fuel + 1, s => do
      let (key, s) ← key? (s.length + 1) s
      match s with
      | '=' :: s =>
          let (node, s) ← value? fuel (skipSpaces s)
          return ((key, node), s)
      | _ => none
end

/-! ## Documents -/

/-- Reads the header of a section behind its opening bracket. -/
def header? (s : List Char) : Option (Key × List Char) := do
  let (key, s) ← key? (s.length + 1) s
  match s with
  | ']' :: s => return (key, s)
  | _ => none

/-- Reads the pairs of a section and the sections that follow it. -/
def sections? : Nat → List Char → Option (List (Key × Node) × List Section)
  | 0, _ => none
  | fuel + 1, s => do
      match ← skipLines false s with
      | [] => return ([], [])
      | '[' :: s =>
          let (header, s) ← header? s
          let (pairs, sections) ← sections? fuel (← finishLine? s)
          return ([], ⟨some header, pairs⟩ :: sections)
      | s =>
          let (pair, s) ← pair? (2 * s.length + 2) s
          let (pairs, sections) ← sections? fuel (← finishLine? s)
          return (pair :: pairs, sections)

/-- A text without the mark of its byte order. -/
def dropOrderMark : List Char → List Char
  | '\uFEFF' :: s => s
  | s => s

/-- The sections of a document. -/
def parse? (source : String) : Option (List Section) :=
  let s := dropOrderMark source.toList
  (sections? (s.length + 1) s).map fun (pairs, sections) => ⟨none, pairs⟩ :: sections

end Migration.Toml

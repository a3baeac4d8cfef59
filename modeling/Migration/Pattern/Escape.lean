import Migration.Pattern.Class
import Migration.Pattern.Property
import Migration.Pattern.Term

/-!
# Escapes in a regular expression

What a backslash and the characters behind it stand for, inside and outside a set.
-/

namespace Migration.Pattern

open Unicode

inductive Escape where
  | literal (c : Char)
  | oneOf (set : CodeSet)
  | place (place : Place)

/-! ## Characters by number -/

def isHexDigit (c : Char) : Bool :=
  c.isDigit || ('a' ≤ c && c ≤ 'f') || ('A' ≤ c && c ≤ 'F')

def hexValue (c : Char) : Nat :=
  if c.isDigit then c.toNat - '0'.toNat
  else if 'a' ≤ c then c.toNat - 'a'.toNat + 10
  else c.toNat - 'A'.toNat + 10

def ofHex (digits : List Char) : Nat :=
  digits.foldl (fun n c => 16 * n + hexValue c) 0

/-- The character with a code point, when there is one. -/
def charOf? (n : Nat) : Option Char :=
  if n.isValidChar then some (Char.ofNat n) else none

/-- Reads a fixed number of digits. -/
def hexDigits? (mode : Mode) : Nat → List Char → Option (List Char × List Char)
  | 0, s => some ([], s)
  | count + 1, s =>
      match mode.skip s with
      | [] => none
      | c :: s =>
          if isHexDigit c then
            (hexDigits? mode count s).map fun (digits, rest) => (c :: digits, rest)
          else none

/-- Reads a code point: `count` digits, or any number of them in braces. Two digits are a byte, and
where classes range over bytes it has to be an ASCII character. -/
def codePoint? (mode : Mode) (count : Nat) (s : List Char) : Option (Char × List Char) :=
  match mode.skip s with
  | '{' :: s =>
      let (digits, rest) := mode.run (· ≠ '}') false s
      if digits ≠ [] && digits.all isHexDigit && rest ≠ [] then
        (charOf? (ofHex digits)).map fun c => (c, rest.drop 1)
      else none
  | s => do
      let (digits, rest) ← hexDigits? mode count s
      let c ← charOf? (ofHex digits)
      if count = 2 && !mode.unicode && 128 ≤ c.toNat then none else some (c, rest)

/-! ## Classes and places by name -/

/-- Reads the name of a property: one character, or any number of them in braces. -/
def propertyName? (mode : Mode) (s : List Char) : Option (List Char × List Char) :=
  match mode.skip s with
  | [] => none
  | '{' :: s =>
      let (name, rest) := mode.run (· ≠ '}') false s
      if rest = [] then none else some (name, rest.drop 1)
  | c :: s => if c = '\\' then none else some ([c], s)

def isPlaceChar (c : Char) : Bool :=
  c.isAlpha || c = '-'

/-- The place that a name in braces behind `\b` stands for. -/
def wordPlaceOf? (name : String) : Option WordPlace :=
  if name = "start" then some .start
  else if name = "end" then some .stop
  else if name = "start-half" then some .startHalf
  else if name = "end-half" then some .stopHalf
  else none

/-- Reads what follows `\b`: the name of a place in braces, if a brace opens there and a letter or a
hyphen follows it. -/
def boundary? (mode : Mode) (s : List Char) : Option (WordPlace × List Char) :=
  match s with
  | '{' :: inner =>
      let (name, rest) := mode.run isPlaceChar false inner
      if name = [] then some (.boundary, s)
      else
        match rest with
        | '}' :: rest => (wordPlaceOf? (String.ofList name)).map fun place => (place, rest)
        | _ => none
  | s => some (.boundary, s)

/-- The place that a character alone stands for after a backslash. -/
def placeOf? (mode : Mode) (c : Char) : Option Place :=
  if c = 'A' then some .textStart
  else if c = 'z' then some .textEnd
  else if c = 'B' then some (.word .noBoundary mode.unicode)
  else if c = '<' then some (.word .start mode.unicode)
  else if c = '>' then some (.word .stop mode.unicode)
  else none

/-- The class that a letter stands for. An uppercase letter negates it, which takes all
characters. -/
def shortClass? (mode : Mode) (c : Char) : Option CodeSet :=
  match mode.classOf? c.toLower with
  | some set => if c.isUpper && !mode.unicode then none else some (set.negateIf c.isUpper)
  | none => none

/-- The control character that a letter names. -/
def controlOf? (c : Char) : Option Char :=
  if c = 'a' then some '\x07'
  else if c = 't' then some '\t'
  else if c = 'n' then some '\n'
  else if c = 'v' then some '\x0b'
  else if c = 'f' then some '\x0c'
  else if c = 'r' then some '\r'
  else none

/-- Whether a character stands for itself after a backslash: an ASCII character that is neither a
letter nor a digit nor an angle bracket. -/
def isEscapable (c : Char) : Bool :=
  c.toNat < 128 && !c.isAlphanum && c ≠ '<' && c ≠ '>'

/-- Reads the name of a property behind `p`, or behind `P` for what does not have it. -/
def propertyClass? (mode : Mode) (negated : Bool) (s : List Char) :
    Option (CodeSet × List Char) := do
  let (name, rest) ← propertyName? mode s
  let set ← Property.find? name
  if mode.unicode then some ((mode.fold set).negateIf negated, rest) else none

/-- Reads what follows a backslash. -/
def escape? (mode : Mode) : List Char → Option (Escape × List Char)
  | [] => none
  | c :: s =>
      if c = 'x' then (codePoint? mode 2 s).map fun (c, rest) => (.literal c, rest)
      else if c = 'u' then (codePoint? mode 4 s).map fun (c, rest) => (.literal c, rest)
      else if c = 'U' then (codePoint? mode 8 s).map fun (c, rest) => (.literal c, rest)
      else if c = 'p' || c = 'P' then
        (propertyClass? mode (c = 'P') s).map fun (set, rest) => (.oneOf set, rest)
      else if c = 'b' then
        (boundary? mode s).map fun (place, rest) => (.place (.word place mode.unicode), rest)
      else if isEscapable c then some (.literal c, s)
      else
        match placeOf? mode c, shortClass? mode c, controlOf? c with
        | some place, _, _ => some (.place place, s)
        | none, some set, _ => some (.oneOf set, s)
        | none, none, some control => some (.literal control, s)
        | none, none, none => none

end Migration.Pattern

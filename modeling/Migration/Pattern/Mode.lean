import Migration.Text.Blank

/-!
# Modes of a regular expression

Flags decide how a regular expression is read: whether blanks and comments in it count, and what its
characters, classes, places and repetition marks stand for.
-/

namespace Migration.Pattern

structure Mode where
  /-- Letters stand for those too that differ from them in case only. -/
  caseless : Bool := false
  /-- `^` and `$` stand for the ends of lines, and not of the text. -/
  multiLine : Bool := false
  /-- The point stands for line feeds too. -/
  dotAll : Bool := false
  /-- Repetition marks prefer fewer copies, and those with a question mark more. -/
  swapGreed : Bool := false
  /-- Carriage returns end lines too. -/
  returns : Bool := false
  /-- Blanks and comments are passed over. -/
  verbose : Bool := false
  /-- Classes range over all characters, and not over bytes. -/
  unicode : Bool := true

/-- What follows blanks and comments. A comment starts with `#` and ends with its line; `inComment`
tells that the text starts within one. -/
def afterBlanks (inComment : Bool) : List Char → List Char
  | [] => []
  | c :: s =>
      if inComment then afterBlanks (c ≠ '\n') s
      else if Text.isBlank c then afterBlanks false s
      else if c = '#' then afterBlanks true s
      else c :: s

namespace Mode

def skip (mode : Mode) (s : List Char) : List Char :=
  if mode.verbose then afterBlanks false s else s

/-- The first character behind blanks, looking past the mark of one comment but not past its
text. -/
def peek? (mode : Mode) (s : List Char) : Option Char :=
  if mode.verbose then
    match s.dropWhile Text.isBlank with
    | '#' :: s => (s.dropWhile Text.isBlank).head?
    | s => s.head?
  else s.head?

/-- The longest run of characters that `keep` accepts, without the blanks and comments that are
passed over, and what follows it. -/
def run (mode : Mode) (keep : Char → Bool) (inComment : Bool) :
    List Char → List Char × List Char
  | [] => ([], [])
  | c :: s =>
      if inComment then run mode keep (c ≠ '\n') s
      else if mode.verbose && Text.isBlank c then run mode keep false s
      else if mode.verbose && c = '#' then run mode keep true s
      else if keep c then
        let (kept, rest) := run mode keep false s
        (c :: kept, rest)
      else ([], c :: s)

def isFlag (c : Char) : Bool :=
  ['i', 'm', 's', 'U', 'u', 'R', 'x'].contains c

/-- Sets the flags that are `on` and unsets those that are `off`. -/
def setFlags (mode : Mode) (on off : List Char) : Mode :=
  let value (flag : Char) (before : Bool) := on.contains flag || (before && !off.contains flag)
  { caseless := value 'i' mode.caseless
    multiLine := value 'm' mode.multiLine
    dotAll := value 's' mode.dotAll
    swapGreed := value 'U' mode.swapGreed
    returns := value 'R' mode.returns
    verbose := value 'x' mode.verbose
    unicode := value 'u' mode.unicode }

/-- The mode after flags such as `i`, `x-u` or `-s`. A flag is given once, and something has to
follow the minus sign. -/
def withFlags? (mode : Mode) (written : List Char) : Option Mode :=
  let on := written.takeWhile (· ≠ '-')
  let off := (written.dropWhile (· ≠ '-')).drop 1
  let flags := on ++ off
  if flags.all isFlag && flags.eraseDups.length = flags.length
      && (off ≠ [] || !written.contains '-') then
    some (mode.setFlags on off)
  else none

end Mode

end Migration.Pattern

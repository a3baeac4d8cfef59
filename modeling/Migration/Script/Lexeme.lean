import Migration.Number.Integer
import Migration.Script.Reading
import Migration.Script.Tree

/-!
# Words of a script

Trivia, names, quoted texts, numbers and the words that are values.
-/

namespace Migration.Script

/-! ## Trivia -/

def isSpace (c : Char) : Bool :=
  c = ' ' || c = '\t' || c = '\r' || c = '\n'

/-- One piece of trivia: a blank, a semicolon, a comment to the end of its line or a closed block
comment. The result is what follows it. -/
def trivium? : List Char → Option (List Char)
  | [] => none
  | '/' :: '/' :: s => some (s.dropWhile fun c => c ≠ '\r' && c ≠ '\n')
  | '/' :: '*' :: s => (Text.cutAt ['*', '/'] s).map (·.2)
  | c :: s => if isSpace c || c = ';' then some s else none

theorem trivium?_shorter {s rest : List Char} (found : trivium? s = some rest) :
    rest.length < s.length := by
  unfold trivium? at found
  split at found
  · cases found
  · simp only [Option.some.injEq] at found
    subst found
    exact Nat.lt_of_le_of_lt (Text.length_dropWhile_le _ _) (by simp only [List.length_cons]; omega)
  · obtain ⟨⟨before, tail⟩, cut, rfl⟩ := Option.map_eq_some_iff.mp found
    exact Nat.lt_of_le_of_lt (Text.cutAt_rest_le cut) (by simp only [List.length_cons]; omega)
  · split at found
    · simp only [Option.some.injEq] at found
      subst found
      exact Nat.lt_succ_self _
    · cases found

/-- What follows all trivia. -/
def skipTrivia (s : List Char) : List Char :=
  match _found : trivium? s with
  | some rest => skipTrivia rest
  | none => s
termination_by s.length
decreasing_by exact trivium?_shorter _found

/-! ## Names -/

def isNameStart (c : Char) : Bool :=
  c.isAlpha || c = '_'

def isNameChar (c : Char) : Bool :=
  c.isAlphanum || c = '_' || c = '.'

/-- Reads the name of an element, an argument or a property. -/
def name? : List Char → Option (String × List Char)
  | [] => none
  | c :: s =>
      if isNameStart c then
        some (String.ofList (c :: s.takeWhile isNameChar), s.dropWhile isNameChar)
      else none

/-! ## Texts -/

/-- What a character stands for after a backslash. -/
def unescape (c : Char) : Char :=
  if c = 'n' then '\n' else if c = 't' then '\t' else if c = 'r' then '\r' else c

/-- The text up to the closing quote, with escapes replaced, and what follows the quote. -/
def shortText? (quote : Char) : List Char → Option (List Char × List Char)
  | [] => none
  | c :: s =>
      if c = quote then some ([], s)
      else if c = '\\' then
        match s with
        | [] => none
        | escaped :: s =>
            (shortText? quote s).map fun (text, rest) => (unescape escaped :: text, rest)
      else (shortText? quote s).map fun (text, rest) => (c :: text, rest)

/-- Reads a text between triple quotes, which has no escapes. -/
def longText? (quote : Char) (s : List Char) : Option (List Char × List Char) :=
  let fence := [quote, quote, quote]
  if fence.isPrefixOf s then Text.cutAt fence (s.drop 3) else none

/-- Reads a quoted text. An opening triple quote without a closing one is an empty short text and
an opening quote. -/
def quoted (s : List Char) : Reading String :=
  match longText? '"' s, longText? '\'' s, s with
  | some (text, rest), _, _ => .found (String.ofList text) rest
  | none, some (text, rest), _ => .found (String.ofList text) rest
  | none, none, [] => .absent
  | none, none, c :: body =>
      if isQuote c then
        match shortText? c body with
        | some (text, rest) => .found (String.ofList text) rest
        | none => .malformed ⟨.quote, s⟩
      else .absent

/-! ## Numbers and words -/

/-- The digits after a point, when there are any. -/
def fraction? : List Char → Option (List Char × List Char)
  | '.' :: s =>
      let digits := s.takeWhile Char.isDigit
      if digits = [] then none else some (digits, s.dropWhile Char.isDigit)
  | _ => none

/-- Reads a number with an optional minus sign. Letters directly behind the digits make it none. -/
def number (s : List Char) : Reading Literal :=
  let (negative, body) : Bool × List Char :=
    match s with
    | '-' :: body => (true, body)
    | body => (false, body)
  let whole := body.takeWhile Char.isDigit
  let afterWhole := body.dropWhile Char.isDigit
  let (fraction, rest) : Option (List Char) × List Char :=
    match fraction? afterWhole with
    | some (digits, rest) => (some digits, rest)
    | none => (none, afterWhole)
  if whole = [] || rest.head?.any isNameStart then .absent
  else
    match fraction with
    | some digits =>
        let exponent : Int := -digits.length
        .found (.float (.ofDecimal negative (Number.ofDigits (whole ++ digits)) exponent)) rest
    | none =>
        let size : Int := Number.ofDigits whole
        match Number.fit64? (if negative then -size else size) with
        | some n => .found (.int n) rest
        | none => .malformed ⟨.number, s⟩

def ofWord (word : String) : Literal :=
  if word = "true" then .bool true
  else if word = "false" then .bool false
  else if word = "null" then .null
  else .reference word

/-- Reads one of the words that are values, or a reference to a property. -/
def word (s : List Char) : Reading Literal :=
  (Reading.ofOption (name? s)).map ofWord

end Migration.Script

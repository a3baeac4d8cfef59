import Migration.Text.Blank

/-!
# Filter expressions

Boolean expressions over names, decided in one pass. A comma is an `or`; `not` binds before `and`,
and `and` before `or`. An operator where a name should stand counts as a true operand, and what
cannot continue the expression ends it.
-/

namespace Migration.Filter

inductive Token where
  | name (s : List Char)
  | or
  | and
  | not
  | opening
  | closing
  deriving DecidableEq

/-- The token that is a single character. -/
def symbol? (c : Char) : Option Token :=
  if c = ',' then some .or
  else if c = '!' then some .not
  else if c = '(' then some .opening
  else if c = ')' then some .closing
  else none

/-- The token of a word: an operator in any letter case, or a name. -/
def ofWord (word : List Char) : Token :=
  let lowered := word.map Char.toLower
  if lowered = "or".toList then .or
  else if lowered = "and".toList then .and
  else if lowered = "not".toList then .not
  else .name word

def ofWord? (word : List Char) : List Token :=
  if word = [] then [] else [ofWord word]

/-- The characters up to the end of the first word, and the tokens behind them. -/
def scan : List Char → List Char × List Token
  | [] => ([], [])
  | c :: s =>
      let (word, tokens) := scan s
      if Text.isBlank c then ([], ofWord? word ++ tokens)
      else
        match symbol? c with
        | some token => ([], token :: (ofWord? word ++ tokens))
        | none => (c :: word, tokens)

def tokens (s : List Char) : List Token :=
  let (word, tokens) := scan s
  ofWord? word ++ tokens

/-- A level of brackets that is being read: whether one of the alternatives before the last `or`
holds, whether all operands since then hold, and whether the next operand is negated. -/
structure Level where
  earlier : Bool
  sofar : Bool
  negated : Bool
  deriving DecidableEq

def Level.start : Level :=
  ⟨false, true, false⟩

/-- Takes an operand with its value. -/
def Level.operand (level : Level) (value : Bool) : Level :=
  { level with sofar := level.sofar && (value != level.negated), negated := false }

/-- The value of a level that ends here. -/
def Level.value (level : Level) : Bool :=
  level.earlier || level.sofar

/-- The value of the expression that ends here, inside of some levels of brackets. -/
def close (level : Level) : List Level → Bool
  | [] => level.value
  | outer :: levels => close (outer.operand level.value) levels

variable (holds : List Char → Bool)

mutual
/-- Reads on where an operand should stand. -/
def atOperand (level : Level) (outer : List Level) : List Token → Bool
  | [] => close (level.operand true) outer
  | .name s :: tokens => atOperator (level.operand (holds s)) outer tokens
  | .not :: tokens => atOperand { level with negated := !level.negated } outer tokens
  | .opening :: tokens => atOperand .start (level :: outer) tokens
  | .or :: tokens => atOperator (level.operand true) outer tokens
  | .and :: tokens => atOperator (level.operand true) outer tokens
  | .closing :: tokens => atOperator (level.operand true) outer tokens

/-- Reads on behind an operand. -/
def atOperator (level : Level) (outer : List Level) : List Token → Bool
  | .or :: tokens => atOperand ⟨level.value, true, false⟩ outer tokens
  | .and :: tokens => atOperand level outer tokens
  | .closing :: tokens =>
      match outer with
      | [] => level.value
      | above :: outer => atOperator (above.operand level.value) outer tokens
  | _ => close level outer
end

/-- The value of an expression when `holds` tells which names are true. -/
def evaluate (expression : List Char) : Bool :=
  atOperand holds .start [] (tokens expression)

example : evaluate (· = "a".toList) "a and !b".toList = true := by decide
example : evaluate (· = "a".toList) "not (b, a) or c".toList = false := by decide
example : evaluate (· = "a".toList) "a b and c".toList = true := by decide

end Migration.Filter

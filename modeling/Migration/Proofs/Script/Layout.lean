import Migration.Script.Lexeme

/-!
# Layouts of scripts

The texts that write a script tree.  A tree leaves open where trivia stand, how a text is quoted and
whether a comma ends a list; `Script.IsWritten` relates a tree to each of its layouts.  The argument
list of an element is always written, and the line of an element is fixed by the line feeds before
its name.
-/

namespace Migration

namespace Script

variable {α : Type}

/-! ## Trivia and names -/

/-- Blanks, semicolons, comments ended by their line and closed block comments. -/
inductive IsTrivia : List Char → Prop where
  | nil : IsTrivia []
  | blank {c : Char} {s : List Char} (isBlank : isSpace c ∨ c = ';') (trivia : IsTrivia s) :
      IsTrivia (c :: s)
  | lineComment {body s : List Char} {newline : Char} (oneLine : '\n' ∉ body ∧ '\r' ∉ body)
      (ends : newline = '\n' ∨ newline = '\r') (trivia : IsTrivia s) :
      IsTrivia ('/' :: '/' :: (body ++ newline :: s))
  | blockComment {body s : List Char} (closesLast : ¬ ['*', '/'] <:+: body) (trivia : IsTrivia s) :
      IsTrivia ('/' :: '*' :: (body ++ '*' :: '/' :: s))

/-- The blanks that may stand between a name and its argument list. -/
def AreBlanks (s : List Char) : Prop :=
  ∀ c ∈ s, c = ' ' ∨ c = '\t'

/-- A letter or underscore, then letters, digits, underscores and points. -/
inductive IsName : List Char → Prop where
  | intro {c : Char} {s : List Char} (start : isNameStart c) (others : ∀ d ∈ s, isNameChar d) :
      IsName (c :: s)

/-! ## Values -/

/-- The spellings of a text between short quotes.  The quote itself and the backslash are always
escaped; any character may follow a backslash. -/
inductive WritesShort (quote : Char) : List Char → List Char → Prop where
  | nil : WritesShort quote [] []
  | plain {c : Char} {content body : List Char} (noQuote : c ≠ quote) (noEscape : c ≠ '\\')
      (others : WritesShort quote content body) : WritesShort quote (c :: content) (c :: body)
  | escaped {c : Char} {content body : List Char} (others : WritesShort quote content body) :
      WritesShort quote (unescape c :: content) ('\\' :: c :: body)

/-- The quoted forms of a text.  Between triple quotes there are no escapes, so a text that contains
them or ends in their quote has no such form. -/
inductive WritesText (s : String) : List Char → Prop where
  | short {quote : Char} {body : List Char} (isQuote : isQuote quote)
      (content : WritesShort quote s.toList body) : WritesText s (quote :: (body ++ [quote]))
  | long {quote : Char} (isQuote : isQuote quote) (noFence : ¬ [quote, quote, quote] <:+: s.toList)
      (noQuoteLast : s.toList.getLast? ≠ some quote) :
      WritesText s (quote :: quote :: quote :: (s.toList ++ [quote, quote, quote]))

/-- The decimal forms of an integer, with leading zeros or without. -/
inductive WritesInt (n : Int64) : List Char → Prop where
  | natural {digits : List Char} (areDigits : Number.isDigits digits)
      (size : n.toInt = Number.ofDigits digits) : WritesInt n digits
  | negative {digits : List Char} (areDigits : Number.isDigits digits)
      (size : n.toInt = -Number.ofDigits digits) : WritesInt n ('-' :: digits)

/-- Items that follow another one, each after a comma with trivia on both sides. -/
inductive WritesMore (writes : α → List Char → Prop) : List α → List Char → Prop where
  | nil : WritesMore writes [] []
  | cons {item : α} {items : List α} {before after text more : List Char}
      (triviaBefore : IsTrivia before) (triviaAfter : IsTrivia after) (first : writes item text)
      (others : WritesMore writes items more) :
      WritesMore writes (item :: items) (before ++ ',' :: (after ++ (text ++ more)))

/-- What may stand between the last item and the closing bracket. -/
inductive IsListEnd : List Char → Prop where
  | trivia {s : List Char} (trivia : IsTrivia s) : IsListEnd s
  | comma {before after : List Char} (triviaBefore : IsTrivia before)
      (triviaAfter : IsTrivia after) : IsListEnd (before ++ ',' :: after)

/-- The inside of a pair of brackets: items between commas, and perhaps a comma behind the last. -/
inductive WritesList (writes : α → List Char → Prop) : List α → List Char → Prop where
  | empty {gap : List Char} (trivia : IsTrivia gap) : WritesList writes [] gap
  | items {item : α} {items : List α} {gap text more close : List Char} (trivia : IsTrivia gap)
      (first : writes item text) (others : WritesMore writes items more)
      (isEnd : IsListEnd close) :
      WritesList writes (item :: items) (gap ++ (text ++ (more ++ close)))

/-- The forms of a value.  There is none for a number with a fraction, nor for a reference that is
no name or is one of the words for other values. -/
inductive WritesValue : Literal → List Char → Prop where
  | str {s : String} {text : List Char} (quoted : WritesText s text) : WritesValue (.str s) text
  | int {n : Int64} {text : List Char} (decimal : WritesInt n text) : WritesValue (.int n) text
  | yes : WritesValue (.bool true) "true".toList
  | no : WritesValue (.bool false) "false".toList
  | null : WritesValue .null "null".toList
  | reference {name : String} (isName : IsName name.toList)
      (noKeyword : name ∉ ["true", "false", "null"]) : WritesValue (.reference name) name.toList
  | list {items : List Literal} {inside : List Char}
      (values : WritesList WritesValue items inside) :
      WritesValue (.list items) ('[' :: (inside ++ [']']))

/-! ## Arguments, elements and blocks -/

/-- The forms of the key of an argument. -/
inductive WritesKey (key : String) : List Char → Prop where
  | bare (isName : IsName key.toList) : WritesKey key key.toList
  | quoted {text : List Char} (quoted : WritesText key text) : WritesKey key text

inductive WritesArgument : Argument → List Char → Prop where
  | positional {value : Literal} {text : List Char} (writes : WritesValue value text) :
      WritesArgument ⟨none, value⟩ text
  | named {key : String} {value : Literal} {keyText before after text : List Char}
      (writesKey : WritesKey key keyText) (triviaBefore : IsTrivia before)
      (triviaAfter : IsTrivia after) (writes : WritesValue value text) :
      WritesArgument ⟨some key, value⟩ (keyText ++ (before ++ ':' :: (after ++ text)))

/-- The name of an element with its argument list. -/
inductive WritesHead (name : String) (arguments : List Argument) : List Char → Prop where
  | intro {blanks inside : List Char} (isName : IsName name.toList) (areBlanks : AreBlanks blanks)
      (list : WritesList WritesArgument arguments inside) :
      WritesHead name arguments (name.toList ++ (blanks ++ '(' :: (inside ++ [')'])))

mutual
/-- The forms of an element that has `before` line feeds before its name. -/
inductive WritesElement : Nat → Element → List Char → Prop where
  | plain {before : Nat} {name : String} {arguments : List Argument} {head : List Char}
      (writesHead : WritesHead name arguments head) :
      WritesElement before ⟨name, arguments, none, before + 1⟩ head
  | block {before : Nat} {name : String} {arguments : List Argument} {items : List (Item Element)}
      {head gap inside : List Char} (writesHead : WritesHead name arguments head)
      (trivia : IsTrivia gap)
      (writesItems : WritesItems (before + lineFeeds (head ++ gap)) true items inside) :
      WritesElement before ⟨name, arguments, some items, before + 1⟩
        (head ++ (gap ++ '{' :: (inside ++ ['}'])))
/-- The forms of the items of a block up to its closing brace.  Something must stand between two
items, but nothing needs to stand before the first. -/
inductive WritesItems : Nat → Bool → List (Item Element) → List Char → Prop where
  | done {before : Nat} {first : Bool} {gap : List Char} (trivia : IsTrivia gap) :
      WritesItems before first [] gap
  | text {before : Nat} {first : Bool} {s : String} {items : List (Item Element)}
      {gap text rest : List Char} (trivia : IsTrivia gap) (apart : first = false → gap ≠ [])
      (quoted : WritesText s text)
      (others : WritesItems (before + lineFeeds (gap ++ text)) false items rest) :
      WritesItems before first (.text s :: items) (gap ++ (text ++ rest))
  | element {before : Nat} {first : Bool} {e : Element} {items : List (Item Element)}
      {gap text rest : List Char} (trivia : IsTrivia gap) (apart : first = false → gap ≠ [])
      (element : WritesElement (before + lineFeeds gap) e text)
      (others : WritesItems (before + lineFeeds (gap ++ text)) false items rest) :
      WritesItems before first (.element e :: items) (gap ++ (text ++ rest))
end

/-- The forms of a script from a place on that has `before` line feeds before it. -/
inductive WritesElements : Nat → List Element → List Char → Prop where
  | done {before : Nat} {gap : List Char} (trivia : IsTrivia gap) : WritesElements before [] gap
  | element {before : Nat} {e : Element} {elements : List Element} {gap text rest : List Char}
      (trivia : IsTrivia gap) (element : WritesElement (before + lineFeeds gap) e text)
      (others : WritesElements (before + lineFeeds (gap ++ text)) elements rest) :
      WritesElements before (e :: elements) (gap ++ (text ++ rest))

end Script

/-- Whether a text is a layout of a script. -/
def Script.IsWritten (script : Script) (source : String) : Prop :=
  Script.WritesElements 0 script.elements source.toList

end Migration

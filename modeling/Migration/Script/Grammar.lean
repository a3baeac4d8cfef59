import Migration.Script.Lexeme

/-!
# The grammar of scripts

Values, argument lists, elements and blocks. `parse` reads a whole script.
-/

namespace Migration.Script

variable {α : Type}

/-! ## Lists between brackets -/

/-- Reads a comma and the trivia around it. -/
def comma? (s : List Char) : Option (List Char) :=
  match skipTrivia s with
  | ',' :: rest => some (skipTrivia rest)
  | _ => none

/-- The items that follow a first one, each after a comma. A comma without an item behind it is
left unread. -/
def moreItems (item : List Char → Reading α) :
    Nat → List Char → Except Fault (List α × List Char)
  | 0, s => .ok ([], s)
  | fuel + 1, s =>
      match comma? s with
      | none => .ok ([], s)
      | some afterComma =>
          match item afterComma with
          | .absent => .ok ([], s)
          | .malformed fault => .error fault
          | .found value rest =>
              match moreItems item fuel rest with
              | .error fault => .error fault
              | .ok (values, rest) => .ok (value :: values, rest)

/-- Items between commas, perhaps none. -/
def commaItems (item : List Char → Reading α) (s : List Char) :
    Except Fault (List α × List Char) :=
  match item s with
  | .absent => .ok ([], s)
  | .malformed fault => .error fault
  | .found value rest =>
      match moreItems item rest.length rest with
      | .error fault => .error fault
      | .ok (values, rest) => .ok (value :: values, rest)

/-- What follows an optional comma and trivia. -/
def skipLastComma (s : List Char) : List Char :=
  match skipTrivia s with
  | ',' :: rest => skipTrivia rest
  | rest => rest

/-- Reads the inside of brackets: items between commas and an optional last comma. What is left
begins with the closing bracket, if there is one. -/
def bracketed (item : List Char → Reading α) (s : List Char) :
    Except Fault (List α × List Char) :=
  match commaItems item (skipTrivia s) with
  | .error fault => .error fault
  | .ok (values, rest) => .ok (values, skipLastComma rest)

/-! ## Values -/

/-- Reads a list, given how its items are read. Without a closing bracket there is no list, so that
another reading may be tried. -/
def list (item : List Char → Reading Literal) : List Char → Reading Literal
  | '[' :: inner =>
      match bracketed item inner with
      | .error fault => .malformed fault
      | .ok (items, ']' :: rest) => .found (.list items) rest
      | .ok _ => .absent
  | _ => .absent

/-- Reads a value whose lists are nested less deep than `fuel`. -/
def valueWithin : Nat → List Char → Reading Literal
  | 0, _ => .absent
  | fuel + 1, s =>
      ((quoted s).map Literal.str).orElse fun _ =>
        (list (valueWithin fuel) s).orElse fun _ => (number s).orElse fun _ => word s

/-- Reads a value. -/
def value (s : List Char) : Reading Literal :=
  valueWithin (s.length + 1) s

/-! ## Arguments -/

/-- Reads the key of an argument with its colon. -/
def key (s : List Char) : Reading String :=
  match (Reading.ofOption (name? s)).orElse fun _ => quoted s with
  | .found name rest =>
      match skipTrivia rest with
      | ':' :: rest => .found name (skipTrivia rest)
      | _ => .absent
  | .absent => .absent
  | .malformed fault => .malformed fault

/-- Reads an argument. Where no key and value can be read a value alone may stand. -/
def argument (s : List Char) : Reading Argument :=
  let named : Reading Argument :=
    match key s with
    | .found name rest => (value rest).map fun value => ⟨some name, value⟩
    | .absent => .absent
    | .malformed fault => .malformed fault
  named.orElse fun _ => (value s).map fun value => ⟨none, value⟩

/-- Reads the arguments behind a name: a list between round brackets, or a single text. Only
blanks and tabs may stand before them. What follows the name stays unread if there are none. -/
def arguments (s : List Char) : Except Fault (List Argument × List Char) :=
  match s.dropWhile fun c => c = ' ' || c = '\t' with
  | '(' :: inner =>
      match bracketed argument inner with
      | .error fault => .error fault
      | .ok (arguments, ')' :: rest) => .ok (arguments, rest)
      | .ok (_, rest) => .error ⟨.closer, rest⟩
  | spaced =>
      match quoted spaced with
      | .found text rest => .ok ([⟨none, .str text⟩], rest)
      | .malformed fault => .error fault
      | .absent => .ok ([], s)

/-! ## Elements and blocks -/

mutual
/-- Reads an element of a script with `total` line feeds. -/
def element (total : Nat) : Nat → List Char → Except Fault (Element × List Char)
  | 0, s => .error ⟨.name, s⟩
  | fuel + 1, s =>
      match name? s with
      | none => .error ⟨.name, s⟩
      | some (name, afterName) =>
          match arguments afterName with
          | .error fault => .error fault
          | .ok (arguments, rest) =>
              match skipTrivia rest with
              | '{' :: inner =>
                  match block total fuel inner with
                  | .error fault => .error fault
                  | .ok (items, rest) =>
                      .ok (⟨name, arguments, some items, lineOf total s⟩, rest)
              | _ => .ok (⟨name, arguments, none, lineOf total s⟩, rest)

/-- Reads the items of a block and its closing brace. The opening one has been read. -/
def block (total : Nat) : Nat → List Char → Except Fault (List (Item Element) × List Char)
  | 0, s => .error ⟨.block, s⟩
  | fuel + 1, s =>
      match skipTrivia s with
      | [] => .error ⟨.block, []⟩
      | '}' :: rest => .ok ([], rest)
      | start =>
          match quoted start with
          | .malformed fault => .error fault
          | .found text rest =>
              match block total fuel rest with
              | .error fault => .error fault
              | .ok (items, rest) => .ok (.text text :: items, rest)
          | .absent =>
              match element total fuel start with
              | .error fault => .error fault
              | .ok (e, rest) =>
                  match block total fuel rest with
                  | .error fault => .error fault
                  | .ok (items, rest) => .ok (.element e :: items, rest)
end

/-- Reads elements up to the end of the script. -/
def topLevel (total : Nat) : Nat → List Char → Except Fault (List Element)
  | 0, s => .error ⟨.block, s⟩
  | fuel + 1, s =>
      match skipTrivia s with
      | [] => .ok []
      | start =>
          match element total (start.length + 2) start with
          | .error fault => .error fault
          | .ok (e, rest) => (topLevel total fuel rest).map (e :: ·)

def parseChars (s : List Char) : Except Fault (List Element) :=
  topLevel (lineFeeds s) (s.length + 1) s

/-- Reads a script. -/
def parse (source : String) : Except Malformed Script :=
  match parseChars source.toList with
  | .ok elements => .ok ⟨elements⟩
  | .error fault => .error ⟨lineOf (lineFeeds source.toList) fault.rest, fault.problem⟩

end Migration.Script

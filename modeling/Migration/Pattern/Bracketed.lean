import Migration.Pattern.Escape

/-!
# Sets of characters in brackets

Characters, ranges, named classes and inner sets, joined or combined by set operations. The only
failure that matters here is that there is no set: every reader gives `none` for it.
-/

namespace Migration.Pattern

open Unicode

inductive SetOperation where
  | intersection
  | difference
  | symmetricDifference

mutual

inductive SetMember where
  | range (first last : Char)
  | named (set : CodeSet)
  | nested (negated : Bool) (set : CharacterSet)

/-- A set in brackets as it is written. -/
inductive CharacterSet where
  | members (all : List SetMember)
  | combined (operation : SetOperation) (left right : CharacterSet)

end

/-! ## Nesting -/

mutual

/-- How deeply sets stand within a member. -/
def SetMember.nesting : SetMember → Nat
  | .nested _ set => set.nesting + 1
  | .range _ _ | .named _ => 0

def CharacterSet.nesting : CharacterSet → Nat
  | .members all => SetMember.nestingOfAll all + if 2 ≤ all.length then 1 else 0
  | .combined _ left right => max left.nesting right.nesting + 1

def SetMember.nestingOfAll : List SetMember → Nat
  | [] => 0
  | member :: all => max member.nesting (SetMember.nestingOfAll all)

end

/-! ## Value -/

def SetOperation.apply : SetOperation → CodeSet → CodeSet → CodeSet
  | .intersection, s, t => s ∩ t
  | .difference, s, t => s \ t
  | .symmetricDifference, s, t => s.symmetricDifference t

mutual

/-- The characters of a member. Where case does not count, it has no effect before a set is whole:
what is negated or combined is folded first. -/
def SetMember.value (mode : Mode) : SetMember → CodeSet
  | .range first last => .range first.toNat last.toNat ∩ .all
  | .named set => set
  | .nested negated set => (mode.fold (set.value mode)).negateIf negated

def CharacterSet.value (mode : Mode) : CharacterSet → CodeSet
  | .members all => SetMember.valueOfAll mode all
  | .combined operation left right =>
      operation.apply (mode.fold (left.value mode)) (mode.fold (right.value mode))

def SetMember.valueOfAll (mode : Mode) : List SetMember → CodeSet
  | [] => ∅
  | member :: all => member.value mode ∪ SetMember.valueOfAll mode all

end

/-! ## Reading -/

/-- Reads an ASCII class such as `[:alpha:]` or `[:^alpha:]` whose opening bracket is read. The
result tells whether it is negated. -/
def asciiClass? : List Char → Option (Bool × CodeSet × List Char)
  | ':' :: s =>
      let negated := s.head? = some '^'
      let body := if negated then s.drop 1 else s
      let name := body.takeWhile (· ≠ ':')
      match body.dropWhile (· ≠ ':') with
      | ':' :: ']' :: rest =>
          (NamedSet.find? Ascii.classes (String.ofList name)).map fun set => (negated, set, rest)
      | _ => none
  | _ => none

/-- What the opening bracket of a set brings with it: whether the set is negated, and the members
that stand for themselves because they come first. -/
structure SetOpening where
  negated : Bool
  members : List SetMember
  rest : List Char

/-- Reads the opening of a set whose bracket is read: a circumflex, then hyphens or one closing
bracket. -/
def setOpening (mode : Mode) (s : List Char) : SetOpening :=
  let (negated, s) : Bool × List Char :=
    match mode.skip s with
    | '^' :: s => (true, s)
    | s => (false, s)
  let (hyphens, rest) := mode.run (· = '-') false s
  if hyphens = [] then
    match rest with
    | ']' :: rest => ⟨negated, [.range ']' ']'], rest⟩
    | rest => ⟨negated, [], rest⟩
  else ⟨negated, hyphens.map fun c => .range c c, rest⟩

/-- A character on its own or an escape. -/
def setAtom? (mode : Mode) : List Char → Option (Escape × List Char)
  | [] => none
  | c :: s => if c = '\\' then escape? mode s else some (.literal c, s)

/-- Whether a character can stand in a set: sets of bytes hold ASCII characters only. -/
def fitsSet (mode : Mode) (c : Char) : Bool :=
  mode.unicode || c.toNat < 128

def memberOf? (mode : Mode) : Escape → Option SetMember
  | .literal c => if fitsSet mode c then some (.range c c) else none
  | .oneOf set => some (.named set)
  | .place _ => none

/-- The range between two members, which have to be characters in order. -/
def rangeOf? (mode : Mode) : Escape → Escape → Option SetMember
  | .literal first, .literal last =>
      if fitsSet mode first && fitsSet mode last && first ≤ last then some (.range first last)
      else none
  | _, _ => none

/-- Reads one member. A hyphen behind it makes a range, except before the end of the set and before
another hyphen. -/
def member? (mode : Mode) (s : List Char) : Option (SetMember × List Char) := do
  let (first, s) ← setAtom? mode s
  match mode.skip s with
  | [] => none
  | '-' :: rest =>
      if mode.peek? rest = some ']' || mode.peek? rest = some '-' then
        (memberOf? mode first).map fun member => (member, '-' :: rest)
      else
        let (last, s) ← setAtom? mode (mode.skip rest)
        (rangeOf? mode first last).map fun member => (member, s)
  | s => (memberOf? mode first).map fun member => (member, s)

/-- Reads a doubled sign between two sets. -/
def operation? : List Char → Option (SetOperation × List Char)
  | '&' :: '&' :: s => some (.intersection, s)
  | '-' :: '-' :: s => some (.difference, s)
  | '~' :: '~' :: s => some (.symmetricDifference, s)
  | _ => none

/-- What is read of a set so far: the part before the last operation, and the members behind it,
last first. -/
structure OpenSet where
  left : Option (CharacterSet × SetOperation)
  members : List SetMember

namespace OpenSet

def add (member : SetMember) (set : OpenSet) : OpenSet :=
  { set with members := member :: set.members }

/-- The whole set. Operations are grouped from the left. -/
def close (set : OpenSet) : CharacterSet :=
  let right := .members set.members.reverse
  match set.left with
  | none => right
  | some (left, operation) => .combined operation left right

end OpenSet

/-- Negation adds characters that are not ASCII, so a set of bytes cannot be negated. -/
def canNegate (mode : Mode) (negated : Bool) : Bool :=
  mode.unicode || !negated

/-- Reads the rest of a set up to its closing bracket. `fuel` is a bound on its length. -/
def setBody? (mode : Mode) : (fuel : Nat) → OpenSet → List Char → Option (CharacterSet × List Char)
  | 0, _, _ => none
  | fuel + 1, set, s =>
      match mode.skip s with
      | [] => none
      | ']' :: s => some (set.close, s)
      | '[' :: s =>
          match asciiClass? s with
          | some (negated, named, rest) =>
              if canNegate mode negated then
                setBody? mode fuel (set.add (.named ((mode.fold named).negateIf negated))) rest
              else none
          | none =>
              let opening := setOpening mode s
              match setBody? mode fuel ⟨none, opening.members⟩ opening.rest with
              | some (inner, rest) =>
                  if canNegate mode opening.negated then
                    setBody? mode fuel (set.add (.nested opening.negated inner)) rest
                  else none
              | none => none
      | c :: s =>
          match operation? (c :: s) with
          | some (operation, rest) =>
              setBody? mode fuel ⟨some (set.close, operation), []⟩ rest
          | none =>
              match member? mode (c :: s) with
              | some (member, rest) => setBody? mode fuel (set.add member) rest
              | none => none

/-- Reads a set whose opening bracket is read. -/
def set? (mode : Mode) (s : List Char) : Option (Nat × CodeSet × List Char) := do
  let opening := setOpening mode s
  let (set, rest) ← setBody? mode (s.length + 1) ⟨none, opening.members⟩ opening.rest
  if canNegate mode opening.negated then
    some (set.nesting + 1, (mode.fold (set.value mode)).negateIf opening.negated, rest)
  else none

end Migration.Pattern

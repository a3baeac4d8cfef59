import Migration.Pattern.Automaton.Branching
import Migration.Pattern.Automaton.Shared
import Migration.Pattern.Term

/-!
# Automata of terms

The two automata of a term, in which counted repetitions are written out as copies. A term can be
used only when neither of them is too large.
-/

namespace Migration.Pattern.Term

open Automaton

/-! ## Places at the ends -/

/-- The place where an automaton begins to read. -/
def startOf : Direction → Place
  | .forward => .textStart
  | .backward => .textEnd

mutual

/-- Whether what a term matches begins at an end of the text, at that where an automaton begins to
read. -/
def isAnchored (direction : Direction) : Term → Bool
  | empty | literal _ | oneOf _ _ => false
  | place p => p = startOf direction
  | repeated body counts => counts.least ≠ 0 && body.isAnchored direction
  | capture body => body.isAnchored direction
  | sequence parts => anyAnchored direction parts
  | choice branches => branches ≠ [] && allAnchored direction branches

/-- Whether one of the parts of a sequence is anchored, with nothing but the empty text before
it. -/
def anyAnchored (direction : Direction) : List Term → Bool
  | [] => false
  | t :: all =>
      match direction with
      | .forward => t.isAnchored direction || (t.matchesOnlyEmpty && anyAnchored direction all)
      | .backward => anyAnchored direction all || (allMatchOnlyEmpty all && t.isAnchored direction)

def allAnchored (direction : Direction) : List Term → Bool
  | [] => true
  | t :: all => t.isAnchored direction && allAnchored direction all

end

/-! ## States -/

/-- The bytes of a literal in the order in which they are read. -/
def readingOrder (direction : Direction) (text : List Char) : List Nat :=
  let bytes := text.flatMap fun c => bytesOf c.toNat
  match direction with
  | .forward => bytes
  | .backward => bytes.reverse

def text? : Term → Option (List Char)
  | literal text => some text
  | _ => none

/-- The states of a repetition whose body is added by `add`. A body that can match the empty text
must not be entered again after that, so its unbounded repetition has two forks. -/
def addRepeated (counts : Counts) (canBeEmpty : Bool) (add : Size → Size) (size : Size) : Size :=
  match counts.least, counts.most with
  | 0, some 1 => (add (size.addFork 2)).addState
  | 0, none =>
      if canBeEmpty then (((add size).addFork 2).addFork 2).addState else add (size.addFork 2)
  | least, none => (size.addCopies add least).addFork 2
  | least, some most =>
      let size := if least = 0 then size.addState else size.addCopies add least
      if least = most then size
      else size.addState.addCopies (fun size => add (size.addFork 2)) (most - least)

mutual

/-- The states of a term. Only an automaton that reads forward keeps track of captures. -/
def addStates (direction : Direction) : Term → Size → Size
  | empty, size | place _, size => size.addState
  | literal text, size => size.addStates (text.map Char.utf8Size).sum
  | oneOf _ set, size => addSet direction set size
  | repeated body counts, size =>
      addRepeated counts (body.shortest?.getD 0 = 0) (fun size => body.addStates direction size)
        size
  | capture body, size =>
      match direction with
      | .forward => (body.addStates direction size.addState).addState
      | .backward => body.addStates direction size
  | sequence parts, size => addParts direction parts size
  | choice branches, size =>
      match branches.mapM text? with
      | some texts => addChoice (texts.map (readingOrder direction)) size
      | none => addBranches direction branches.length 0 branches size

/-- The states of the parts of a sequence, in the order in which they are read. -/
def addParts (direction : Direction) : List Term → Size → Size
  | [], size => size
  | t :: all, size =>
      match direction with
      | .forward => addParts direction all (t.addStates direction size)
      | .backward => t.addStates direction (addParts direction all size)

/-- The states of branches, `added` of which are there already. The fork before all `count`
branches and the state behind them come after the second one. -/
def addBranches (direction : Direction) (count added : Nat) : List Term → Size → Size
  | [], size => size
  | t :: all, size =>
      let size := t.addStates direction size
      let size := if added = 1 then (size.addFork count).addState else size
      addBranches direction count (added + 1) all size

end

/-- The automaton of a term. Unless the term is anchored, it can pass over any bytes before a
match. -/
def automaton (direction : Direction) (t : Term) : Size :=
  let start : Size :=
    if t.isAnchored direction then Size.addState ⟨0, 0⟩
    else ((Size.addFork 2 ⟨0, 0⟩).addState).addTable 1
  ((capture t).addStates direction start).addState

/-! ## The limit -/

/-- A choice between so many texts is searched for without automata. -/
def isLongList : Term → Bool
  | choice branches => 3000 ≤ branches.length && (branches.mapM text?).isSome
  | _ => false

/-- Whether the automata of a term are within the limit of memory. -/
def isWithinLimit (t : Term) : Bool :=
  t.isLongList || [.forward, .backward].all fun direction => !(t.automaton direction).isTooLarge

end Migration.Pattern.Term

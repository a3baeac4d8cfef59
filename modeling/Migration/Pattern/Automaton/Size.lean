/-!
# Sizes of automata

A matcher is a pair of automata that read bytes, one from the start of a text and one from its end.
Only their sizes matter here: how many states they have, and how many bytes these take.
-/

namespace Migration.Pattern.Automaton

/-- The way in which an automaton reads a text. -/
inductive Direction where
  | forward
  | backward
  deriving DecidableEq

/-- The size of an automaton that is being built. A new state has the number of states as its own
number. -/
structure Size where
  states : Nat
  /-- The bytes that states take beside their common part. -/
  extra : Nat
  deriving DecidableEq, Repr

namespace Size

/-- Each state takes 32 bytes. -/
def bytes (size : Size) : Nat :=
  32 * size.states + size.extra

/-- Ten megabytes. -/
def limit : Nat :=
  10 * 1024 * 1024

def isTooLarge (size : Size) : Bool :=
  limit < size.bytes

/-- A state that is left in one way only, or for the ranges of a row of bytes. -/
def addState (size : Size) : Size :=
  { size with states := size.states + 1 }

def addStates (count : Nat) (size : Size) : Size :=
  { size with states := size.states + count }

/-- A state that reads one byte and chooses by it between ranges of bytes, 8 bytes each. -/
def addTable (ranges : Nat) (size : Size) : Size :=
  ⟨size.states + 1, size.extra + 8 * ranges⟩

/-- A state that reads nothing and is left in several ways, 4 bytes each. -/
def addFork (ways : Nat) (size : Size) : Size :=
  ⟨size.states + 1, size.extra + 4 * ways⟩

/-- Adds copies of a part. Nothing is added to what is too large. -/
def addCopies (add : Size → Size) : (count : Nat) → Size → Size
  | 0, size => size
  | count + 1, size => if size.isTooLarge then size else addCopies add count (add size)

end Size

end Migration.Pattern.Automaton

import Migration.Pattern.Automaton.Size

/-!
# States of texts

A choice between texts is read byte by byte, where texts that begin alike share their states. An
earlier text has precedence over later ones. So where a text ends, the texts after it begin anew,
and do not share states with those before it.
-/

namespace Migration.Pattern.Automaton

/-- Cuts a list of texts at those that are empty. -/
def cutAtEmpty : List (List Nat) → List (List (List Nat))
  | [] => [[]]
  | [] :: texts => [] :: cutAtEmpty texts
  | text :: texts =>
      match cutAtEmpty texts with
      | [] => [[text]]
      | piece :: pieces => (text :: piece) :: pieces

/-- The texts without the empty ones that follow an empty one at the beginning: these change
nothing. -/
def dropRepeatedEnds : List (List Nat) → List (List Nat)
  | [] :: texts => [] :: texts.dropWhile List.isEmpty
  | texts => texts

/-- What follows a first byte in the texts that begin with it. -/
def restsOf (byte : Nat) (texts : List (List Nat)) : List (List Nat) :=
  texts.filterMap fun
    | first :: rest => if first = byte then some rest else none
    | [] => none

/-- The states that read texts of at most `height` bytes: a fork to the pieces between the ends of
texts, and in each piece one state for the first bytes. -/
def addTexts : (height : Nat) → List (List Nat) → Size → Size
  | 0, _, size => size
  | height + 1, texts, size =>
      let pieces := cutAtEmpty (dropRepeatedEnds texts)
      let filled := pieces.filter (· ≠ [])
      let size := filled.foldl (fun size piece =>
        let firsts := (piece.filterMap List.head?).eraseDups
        let size := firsts.foldl (fun size byte =>
          let rests := restsOf byte piece
          if rests.all List.isEmpty then size else addTexts height rests size) size
        if firsts.length = 1 then size.addState else size.addTable firsts.length) size
      size.addFork (pieces.length - 1 + filled.length)

/-- The states of a choice between texts, with the one behind all of them. -/
def addChoice (texts : List (List Nat)) (size : Size) : Size :=
  addTexts ((texts.map List.length).max?.getD 0) texts size.addState

end Migration.Pattern.Automaton

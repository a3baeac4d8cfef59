import Migration.Pattern.Automaton.Row
import Migration.Pattern.Automaton.Size
import Std.Data.HashMap

/-!
# States of sets

Characters outside the ASCII set have several bytes, and many rows of a set end or begin alike, so
their states can be shared. The states to share are kept in a table of limited length: each has one
place in it, and is forgotten when a later one takes its place.
-/

namespace Migration.Pattern.Automaton

open Unicode

/-! ## The table -/

/-- The states that can be shared, by what leaves them. -/
structure StateTable where
  places : Nat
  states : Std.HashMap Nat (List Nat × Nat) := ∅

namespace StateTable

/-- The place of a key: a hash of 64 bits, which takes one number of the key after the other by
exclusive or and multiplication. -/
def placeOf (table : StateTable) (key : List Nat) : Nat :=
  let hash := key.foldl (fun hash n => (hash ^^^ n.toUInt64) * 0x100000001B3) 0xCBF29CE484222325
  hash.toNat % table.places

def find? (table : StateTable) (key : List Nat) : Option Nat :=
  match table.states[table.placeOf key]? with
  | some (present, state) => if present = key then some state else none
  | none => none

def insert (table : StateTable) (key : List Nat) (state : Nat) : StateTable :=
  { table with states := table.states.insert (table.placeOf key) (key, state) }

end StateTable

/-- The states of a set while they are being added. -/
structure Sharing where
  size : Size
  table : StateTable

/-- The state with a key, and what is built then. A new state is added by `add`. -/
def Sharing.state (add : Size → Size) (key : List Nat) (sharing : Sharing) : Nat × Sharing :=
  match sharing.table.find? key with
  | some state => (state, sharing)
  | none =>
      let state := sharing.size.states
      (state, ⟨add sharing.size, sharing.table.insert key state⟩)

/-! ## Reading forward -/

/-- Puts neighbouring rows that begin alike together: the common first range, and what follows
it. -/
def groupByFirst : List Row → List ((Nat × Nat) × List Row)
  | [] => []
  | [] :: rows => groupByFirst rows
  | (first :: rest) :: rows =>
      match groupByFirst rows with
      | (next, rests) :: groups =>
          if next = first then (first, rest :: rests) :: groups
          else (first, [rest]) :: (next, rests) :: groups
      | [] => [(first, [rest])]

/-- The state that reads rows of at most `height` ranges and leads to `target`. A state has the
ranges that it reads as its key, each with the state to which it leads. -/
def addRows (target : Nat) : (height : Nat) → List Row → Sharing → Nat × Sharing
  | 0, _, sharing => (target, sharing)
  | height + 1, rows, sharing =>
      if rows.all List.isEmpty then (target, sharing)
      else
        let groups := groupByFirst rows
        let (key, sharing) := groups.foldl (fun (key, sharing) ((first, last), rests) =>
          let (next, sharing) := addRows target height rests sharing
          (next :: last :: first :: key, sharing)) (([] : List Nat), sharing)
        sharing.state (Size.addTable groups.length) key.reverse

/-! ## Reading backward -/

/-- The states that read a row from its last range, and the one among them that reads the first
range. A state has the state to which it leads and the range that it reads as its key. -/
def addRow (target : Nat) (row : Row) (sharing : Sharing) : Sharing :=
  (row.foldl (fun (next, sharing) (first, last) =>
    sharing.state Size.addState [next, first, last]) (target, sharing)).2

/-! ## Sets -/

/-- The states of a set: two for ASCII characters, and else a state behind its rows and those that
read them. -/
def addSet (direction : Direction) (set : CodeSet) (size : Size) : Size :=
  if set.isAscii then size.addState.addTable set.ranges.length
  else
    let rows := rowsOf set
    match direction with
    | .forward => (addRows size.states 4 rows ⟨size.addState, ⟨10000, ∅⟩⟩).2.size
    | .backward =>
        let target := size.states + 1
        let start : Sharing := ⟨(size.addFork rows.length).addState, ⟨1000, ∅⟩⟩
        (rows.foldl (fun sharing row => addRow target row sharing) start).size

end Migration.Pattern.Automaton

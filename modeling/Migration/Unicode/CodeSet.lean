/-!
# Sets of code points

A set is given by its bounds: its members begin at the first bound, end before the second, begin
again at the third, and so on. All operations of sets are one walk along the bounds of two sets.
-/

namespace Migration.Unicode

/-- A set of code points. The bounds ascend. -/
structure CodeSet where
  bounds : List Nat
  deriving DecidableEq, Inhabited

namespace CodeSet

/-- Whether a code point is a member, when `inside` tells whether those before the first bound
are. -/
def holds (inside : Bool) (n : Nat) : List Nat → Bool
  | [] => inside
  | bound :: bounds => if n < bound then inside else holds (!inside) n bounds

def contains (set : CodeSet) (n : Nat) : Bool :=
  holds false n set.bounds

instance : EmptyCollection CodeSet :=
  ⟨⟨[]⟩⟩

/-- The set of the code points from `first` to `last`. -/
def range (first last : Nat) : CodeSet :=
  ⟨[first, last + 1]⟩

def singleton (n : Nat) : CodeSet :=
  range n n

/-- The code points of all characters. Those from D800 to DFFF are none. -/
def all : CodeSet :=
  ⟨[0, 0xD800, 0xE000, 0x110000]⟩

/-- A bound, where membership changes there. -/
def boundIf (changes : Bool) (bound : Nat) (bounds : List Nat) : List Nat :=
  if changes then bound :: bounds else bounds

/-- The bounds of the set whose members `keep` decides by membership in two sets. -/
def combineBounds (keep : Bool → Bool → Bool) (inLeft inRight : Bool) :
    List Nat → List Nat → List Nat
  | [], right => if keep inLeft true = keep inLeft false then [] else right
  | left, [] => if keep true inRight = keep false inRight then [] else left
  | l :: left, r :: right =>
      let before := keep inLeft inRight
      if l < r then
        boundIf (before ≠ keep (!inLeft) inRight) l
          (combineBounds keep (!inLeft) inRight left (r :: right))
      else if r < l then
        boundIf (before ≠ keep inLeft (!inRight)) r
          (combineBounds keep inLeft (!inRight) (l :: left) right)
      else
        boundIf (before ≠ keep (!inLeft) (!inRight)) l
          (combineBounds keep (!inLeft) (!inRight) left right)
termination_by left right => left.length + right.length

/-- The code points that `keep` accepts by their membership in two sets. What is in neither set is
never accepted. -/
def combine (keep : Bool → Bool → Bool) (s t : CodeSet) : CodeSet :=
  ⟨combineBounds keep false false s.bounds t.bounds⟩

instance : Union CodeSet :=
  ⟨combine fun a b => a || b⟩

instance : Inter CodeSet :=
  ⟨combine fun a b => a && b⟩

instance : SDiff CodeSet :=
  ⟨combine fun a b => a && !b⟩

/-- The code points that are in one of two sets only. -/
def symmetricDifference (s t : CodeSet) : CodeSet :=
  combine xor s t

/-- The characters that are not in a set. -/
def complement (set : CodeSet) : CodeSet :=
  all \ set

/-- The complement of a set, or the set itself. -/
def negateIf (negated : Bool) (set : CodeSet) : CodeSet :=
  if negated then set.complement else set

/-- The union of ranges, which are given by their first and last code points. -/
def ofRanges (ranges : List (Nat × Nat)) : CodeSet :=
  ranges.foldr (fun (first, last) set => range first last ∪ set) ∅

def ofList (points : List Nat) : CodeSet :=
  points.foldr (fun n set => singleton n ∪ set) ∅

/-- Every second code point of each range, beginning with the first. -/
def everySecond (ranges : List (Nat × Nat)) : CodeSet :=
  ⟨ranges.flatMap fun (first, last) =>
    (List.range ((last - first) / 2 + 1)).flatMap fun i => [first + 2 * i, first + 2 * i + 1]⟩

def union (sets : List CodeSet) : CodeSet :=
  sets.foldr (· ∪ ·) ∅

/-- The first and last code points between pairs of bounds. -/
def rangesOf : List Nat → List (Nat × Nat)
  | first :: bound :: bounds => (first, bound - 1) :: rangesOf bounds
  | _ => []

/-- The ranges of a set in ascending order. -/
def ranges (set : CodeSet) : List (Nat × Nat) :=
  rangesOf set.bounds

/-- The only member of a set with one member. -/
def only? (set : CodeSet) : Option Nat :=
  match set.bounds with
  | [first, bound] => if bound = first + 1 then some first else none
  | _ => none

/-- Whether all members are ASCII characters. -/
def isAscii (set : CodeSet) : Bool :=
  set.bounds.all (· ≤ 128)

end CodeSet

/-- A set with its names, as they are when they are compared. -/
structure NamedSet where
  names : List String
  set : CodeSet

/-- The set with a name. -/
def NamedSet.find? (sets : List NamedSet) (name : String) : Option CodeSet :=
  (sets.find? (·.names.contains name)).map (·.set)

end Migration.Unicode

import Migration.Unicode.CodeSet

/-!
# Terms

What a regular expression matches, without the way it is written. The functions that build terms
keep them simple: neighbouring texts are joined, a choice between characters is a set, and what
matches nothing but the empty text is repeated at most once.
-/

namespace Migration.Pattern

open Unicode

/-- Where a place stands to the words around it. The half forms look at one side only. -/
inductive WordPlace where
  | boundary
  | noBoundary
  | start
  | stop
  | startHalf
  | stopHalf
  deriving DecidableEq

/-- A condition on the place and not on a character. -/
inductive Place where
  | textStart
  | textEnd
  /-- The start of a line; `returns` tells whether carriage returns end lines too. -/
  | lineStart (returns : Bool)
  | lineEnd (returns : Bool)
  /-- A place at a word; `unicode` tells whether words consist of more than ASCII characters. -/
  | word (place : WordPlace) (unicode : Bool)
  deriving DecidableEq

/-- How often something is repeated: at least, and at most if there is a bound. -/
structure Counts where
  least : Nat
  most : Option Nat
  /-- Fewer copies are preferred to more. -/
  preferFewer : Bool
  deriving DecidableEq

inductive Term where
  | empty
  | literal (text : List Char)
  /-- One character of a set; `ofBytes` tells whether it was given as a set of bytes. -/
  | oneOf (ofBytes : Bool) (set : CodeSet)
  | place (place : Place)
  | repeated (body : Term) (counts : Counts)
  | capture (body : Term)
  | sequence (parts : List Term)
  | choice (branches : List Term)

namespace Term

/-! ## Lengths -/

mutual

/-- The number of bytes of the shortest text that a term matches; `none` if a part of it matches
nothing. -/
def shortest? : Term → Option Nat
  | empty | place _ => some 0
  | literal text => some (text.map Char.utf8Size).sum
  | oneOf _ set => set.bounds.head?.map fun first => (Char.ofNat first).utf8Size
  | repeated body counts => body.shortest?.map (counts.least * ·)
  | capture body => body.shortest?
  | sequence parts => (shortestOfEach? parts).map List.sum
  | choice branches => (shortestOfEach? branches).bind List.min?

def shortestOfEach? : List Term → Option (List Nat)
  | [] => some []
  | t :: all => do return (← t.shortest?) :: (← shortestOfEach? all)

end

mutual

/-- Whether a term matches the empty text and no other. -/
def matchesOnlyEmpty : Term → Bool
  | empty | place _ => true
  | literal _ | oneOf _ _ => false
  | repeated body counts => counts.most.isSome && body.matchesOnlyEmpty
  | capture body => body.matchesOnlyEmpty
  | sequence all | choice all => allMatchOnlyEmpty all

def allMatchOnlyEmpty : List Term → Bool
  | [] => true
  | t :: all => t.matchesOnlyEmpty && allMatchOnlyEmpty all

end

/-! ## Comparison -/

mutual

/-- Whether two terms are the same. A captured text is none but its own. -/
def same : Term → Term → Bool
  | empty, empty => true
  | literal s, literal t => s = t
  | oneOf ofBytes s, oneOf ofBytes' t => ofBytes = ofBytes' && s = t
  | place p, place q => p = q
  | repeated s m, repeated t n => m = n && s.same t
  | sequence s, sequence t | choice s, choice t => allSame s t
  | _, _ => false

def allSame : List Term → List Term → Bool
  | [], [] => true
  | s :: all, t :: others => s.same t && allSame all others
  | _, _ => false

end

/-- The longest beginning that two sequences share. -/
def sharedStart : List Term → List Term → List Term
  | s :: first, t :: second => if s.same t then s :: sharedStart first second else []
  | _, _ => []

/-! ## Construction -/

/-- What matches nothing. -/
def nothing : Term :=
  oneOf true ∅

/-- One character of a set. A set with one member is that character, however it was given. -/
def ofSet (ofBytes : Bool) (set : CodeSet) : Term :=
  match set.only? with
  | some n => literal [Char.ofNat n]
  | none => if set = ∅ then nothing else oneOf ofBytes set

def ofCounts (counts : Counts) (body : Term) : Term :=
  let counts :=
    if body.matchesOnlyEmpty then
      { counts with least := min counts.least 1, most := some (min (counts.most.getD 1) 1) }
    else counts
  if counts.most = some 0 then empty
  else if counts.least = 1 && counts.most = some 1 then body
  else repeated body counts

/-- The parts of a sequence, for a term that is to be part of one. -/
def partsOf : Term → List Term
  | empty => []
  | sequence parts => parts
  | t => [t]

/-- Joins neighbouring texts. -/
def joinLiterals : List Term → List Term
  | [] => []
  | literal s :: all =>
      match joinLiterals all with
      | literal t :: rest => literal (s ++ t) :: rest
      | rest => literal s :: rest
  | t :: all => t :: joinLiterals all

def ofParts (parts : List Term) : Term :=
  match joinLiterals (parts.flatMap partsOf) with
  | [] => empty
  | [t] => t
  | parts => sequence parts

/-- The branches of a choice, for a term that is to be a branch of one. -/
def branchesOf : Term → List Term
  | choice branches => branches
  | t => [t]

def char? : Term → Option Nat
  | literal [c] => some c.toNat
  | _ => none

def set? : Term → Option CodeSet
  | oneOf _ set => some set
  | _ => none

/-- What branches amount to when they are no choice: none or one of them, or single characters, or
sets. -/
def joined? : List Term → Option Term
  | [] => some nothing
  | [t] => some t
  | branches =>
      match branches.mapM char?, branches.mapM set? with
      | some chars, _ => some (ofSet false (.ofList chars))
      | none, some sets => some (ofSet false (.union sets))
      | none, none => none

/-- The longest beginning that all branches share, when all are sequences. -/
def commonStart : List Term → List Term
  | sequence first :: others =>
      others.foldl (fun start t =>
        match t with
        | sequence parts => sharedStart start parts
        | _ => []) first
  | _ => []

/-- A sequence without its first parts. -/
def dropParts (count : Nat) (t : Term) : Term :=
  ofParts (t.partsOf.drop count)

/-- The choice between branches that share no beginning. -/
def ofDistinct (branches : List Term) : Term :=
  let branches := branches.flatMap branchesOf
  (joined? branches).getD (choice branches)

/-- The choice between branches. What all of them begin with is taken out of it. -/
def ofBranches (branches : List Term) : Term :=
  let branches := branches.flatMap branchesOf
  match joined? branches, commonStart branches with
  | some t, _ => t
  | none, [] => choice branches
  | none, start => ofParts (start ++ [ofDistinct (branches.map (dropParts start.length))])

example : (ofBranches [literal ['a'], literal ['b']]).same (oneOf false (.range 0x61 0x62)) := by
  decide +kernel

end Term

end Migration.Pattern

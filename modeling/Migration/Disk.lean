import Migration.Text.Split

/-!
# Disks

What is known of a tree of directories. A place is the list of names that leads to it from the
root of the disk. What has not been looked at yet is unexplored, and a question that depends on it
has the unexplored place as its answer.
-/

namespace Migration

inductive Disk where
  | unexplored
  /-- A file, without content if its bytes are no text. -/
  | file (content : Option String)
  | directory (entries : List (String × Disk))
  /-- Something that is neither a file nor a directory. -/
  | other
  deriving Inhabited

namespace Disk

abbrev Place := List String

/-- An answer, or the place that has to be explored before there is one. -/
abbrev Answer (α : Type) := Except Place α

/-- Puts a node at a place. What is on the way there becomes a directory. -/
def insert : Disk → Place → Disk → Disk
  | _, [], node => node
  | disk, name :: place, node =>
      let entries :=
        match disk with
        | .directory entries => entries
        | _ => []
      let child := ((entries.lookup name).getD (.directory [])).insert place node
      .directory ((name, child) :: entries.filter fun entry => entry.1 ≠ name)

/-- What is at a place below the place `above`, if anything is there. -/
def find (above : Place) : Disk → Place → Answer (Option Disk)
  | .unexplored, _ => .error above
  | disk, [] => .ok (some disk)
  | .directory entries, name :: place =>
      match entries.lookup name with
      | some child => child.find (above ++ [name]) place
      | none => .ok none
  | _, _ :: _ => .ok none

/-- Where a path leads. -/
inductive Way where
  | leads (place : Place) (node : Disk)
  | missing
  /-- Something on the way is no directory. -/
  | blocked
  /-- The path, or a name in it, is longer than a disk allows. -/
  | tooLong

/-- How many bytes a name may have. -/
def nameLimit : Nat := 255

/-- Follows the segments of a path from a place. A segment can be followed from directories only;
an empty one and a point stay there, and two points go up. -/
def follow (disk : Disk) (here : Place) : List (List Char) → Answer Way
  | [] => do
      match ← disk.find [] here with
      | some node => return .leads here node
      | none => return .missing
  | segment :: segments => do
      match ← disk.find [] here with
      | some (.directory _) =>
          if segment = [] ∨ segment = ['.'] then disk.follow here segments
          else if segment = ['.', '.'] then disk.follow here.dropLast segments
          else
            let name := String.ofList segment
            if name.utf8ByteSize > nameLimit then return .tooLong
            else disk.follow (here ++ [name]) segments
      | some _ => return .blocked
      | none => return .missing

/-- The length in bytes from which on a path is too long. -/
def pathLimit : Nat := 4096

/-- Where a path leads. One that does not begin with a separator leads on from the place `here`. -/
def locate (disk : Disk) (here : Place) (path : String) : Answer Way :=
  if path = "" then .ok .missing
  else if path.utf8ByteSize ≥ pathLimit then .ok .tooLong
  else
    disk.follow (if path.toList.head? = some '/' then [] else here)
      (Text.split '/' path.toList)

mutual
/-- The files at a place or below it, as seen from there. A file is all that is no directory. -/
def files (here : Place) : Disk → Answer (List Place)
  | .unexplored => .error here
  | .directory entries => filesOf here entries
  | .file _ => .ok [[]]
  | .other => .ok [[]]

def filesOf (here : Place) : List (String × Disk) → Answer (List Place)
  | [] => .ok []
  | (name, node) :: entries => do
      let below ← files (here ++ [name]) node
      let others ← filesOf here entries
      return below.map (name :: ·) ++ others
end

/-- The names of the files that are directly in a directory. -/
def filesDirectlyIn (here : Place) : List (String × Disk) → Answer (List Place)
  | [] => .ok []
  | (name, .unexplored) :: _ => .error (here ++ [name])
  | (_, .directory _) :: entries => filesDirectlyIn here entries
  | (name, _) :: entries => (filesDirectlyIn here entries).map ([name] :: ·)

mutual
/-- How many files and other ends of the tree are known. -/
def size : Disk → Nat
  | .directory entries => sizeOf entries
  | _ => 1

def sizeOf : List (String × Disk) → Nat
  | [] => 0
  | (_, node) :: entries => size node + sizeOf entries
end

end Disk

end Migration

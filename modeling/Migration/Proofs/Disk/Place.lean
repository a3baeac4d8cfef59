import Mathlib.Data.List.Basic
import Migration.Disk
import Migration.Proofs.Failure

/-!
# Places on a disk

Where a path leads depends on the disk only in whether it leads anywhere: its segments alone say to
which place.  There are no more places with a file than the disk has ends.
-/

namespace Migration.Disk

variable {disk node : Disk} {here place : Place} {segments : List (List Char)}

/-! ## Ways -/

/-- The place to which a segment leads. -/
def go (here : Place) (segment : List Char) : Place :=
  if segment = [] ∨ segment = ['.'] then here
  else if segment = ['.', '.'] then here.dropLast
  else here ++ [String.ofList segment]

/-- A segment that is followed is followed from a directory, to the place that it says. -/
theorem follow_cons_eq_leads {segment : List Char}
    (followed : disk.follow here (segment :: segments) = .ok (.leads place node)) :
    (∃ entries, disk.find [] here = .ok (some (.directory entries))) ∧
      disk.follow (go here segment) segments = .ok (.leads place node) := by
  rw [follow] at followed
  obtain ⟨found, isFound, followed⟩ := bind_eq_ok.mp followed
  match found with
  | some (.directory entries) =>
      refine ⟨⟨entries, isFound⟩, ?_⟩
      unfold go
      dsimp only at followed
      split at followed
      · rw [if_pos ‹_›]
        exact followed
      split at followed
      · rw [if_neg ‹_›, if_pos ‹_›]
        exact followed
      · rw [if_neg ‹_›, if_neg ‹_›]
        split at followed
        · cases followed
        · exact followed
  | some .unexplored | some (.file _) | some .other | none => cases followed

theorem follow_eq_leads (followed : disk.follow here segments = .ok (.leads place node)) :
    place = segments.foldl go here ∧ disk.find [] place = .ok (some node) := by
  induction segments generalizing here with
  | nil =>
      rw [follow] at followed
      obtain ⟨found, isFound, followed⟩ := bind_eq_ok.mp followed
      match found with
      | some found =>
          cases followed
          exact ⟨rfl, isFound⟩
      | none => cases followed
  | cons segment segments ih => exact ih (follow_cons_eq_leads followed).2

/-- What a separator follows is a directory. -/
theorem follow_append_nil
    (followed : disk.follow here (segments ++ [[]]) = .ok (.leads place node)) :
    ∃ entries, node = .directory entries := by
  induction segments generalizing here with
  | nil =>
      obtain ⟨⟨entries, isDirectory⟩, stays⟩ := follow_cons_eq_leads followed
      obtain ⟨same, isNode⟩ := follow_eq_leads stays
      have samePlace : place = here := same
      rw [samePlace, isDirectory] at isNode
      cases isNode
      exact ⟨entries, rfl⟩
  | cons segment segments ih => exact ih (follow_cons_eq_leads followed).2

/-- Steps up lead to the place that many names above. -/
theorem foldl_go_ups (ups : Nat) (here : Place) :
    (List.replicate ups ['.', '.']).foldl go here = here.take (here.length - ups) := by
  induction ups generalizing here with
  | zero => simp
  | succ ups ih =>
      have up : go here ['.', '.'] = here.dropLast := rfl
      rw [List.replicate_succ, List.foldl_cons, up, ih, List.dropLast_eq_take, List.take_take]
      congr 1
      rw [List.length_take]
      omega

/-! ## Ends -/

mutual
/-- The places of the files and the other ends of a disk. -/
def ends : Disk → List Place
  | .directory entries => endsOf entries
  | .unexplored | .file _ | .other => [[]]

def endsOf : List (String × Disk) → List Place
  | [] => []
  | (name, node) :: entries => (ends node).map (name :: ·) ++ endsOf entries
end

mutual
theorem length_ends (disk : Disk) : disk.ends.length = disk.size := by
  cases disk with
  | directory entries => exact length_endsOf entries
  | unexplored | file | other => rfl

theorem length_endsOf (entries : List (String × Disk)) :
    (endsOf entries).length = sizeOf entries := by
  cases entries with
  | nil => rfl
  | cons entry entries =>
      rw [endsOf, List.length_append, List.length_map, length_ends, length_endsOf, sizeOf]
end

theorem mem_endsOf {name : String} {child : Disk} {entries : List (String × Disk)}
    (known : entries.lookup name = some child) (inside : place ∈ child.ends) :
    name :: place ∈ endsOf entries := by
  induction entries with
  | nil => cases known
  | cons entry entries ih =>
      obtain ⟨other, node⟩ := entry
      rw [List.lookup_cons] at known
      rw [endsOf, List.mem_append]
      split at known
      · cases known
        exact .inl (List.mem_map.mpr ⟨place, inside, by simp_all⟩)
      · exact .inr (ih known)

/-- A place with a file is an end. -/
theorem mem_ends {above : Place} {content : Option String}
    (found : disk.find above place = .ok (some (.file content))) : place ∈ disk.ends := by
  induction place generalizing disk above with
  | nil =>
      cases disk with
      | file => exact List.mem_singleton.mpr rfl
      | unexplored | directory | other => cases found
  | cons name place ih =>
      cases disk with
      | directory entries =>
          rw [find] at found
          split at found
          · exact mem_endsOf ‹_› (ih found)
          · cases found
      | unexplored | file | other => cases found

end Migration.Disk

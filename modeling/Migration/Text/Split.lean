import Migration.Text.Blank

/-!
# Cutting texts

Pieces between separators, lines, the names of a comma separated list, and the place where one
text first occurs in another.
-/

namespace Migration.Text

/-- The pieces between the occurrences of `separator`: one more than there are occurrences. -/
def split (separator : Char) : List Char → List (List Char)
  | [] => [[]]
  | c :: s =>
      if c = separator then [] :: split separator s
      else
        match split separator s with
        | [] => [[c]]
        | piece :: pieces => (c :: piece) :: pieces

theorem split_ne_nil (separator : Char) (s : List Char) : split separator s ≠ [] := by
  cases s with
  | nil => simp [split]
  | cons c s =>
      unfold split
      split
      · simp
      · split <;> simp

/-- A line without the carriage return that stands before its line feed. -/
def dropReturn (line : List Char) : List Char :=
  if line.getLast? = some '\r' then line.dropLast else line

/-- The lines of a text. A last line without a line feed keeps its carriage return, and is no
line at all when it is empty. -/
def lines (s : List Char) : List (List Char) :=
  let pieces := split '\n' s
  let last := pieces.getLastD []
  pieces.dropLast.map dropReturn ++ if last = [] then [] else [last]

/-- The first line of a text, empty when there is none. -/
def firstLine (s : List Char) : List Char :=
  let line := s.takeWhile (· ≠ '\n')
  if line.length < s.length then dropReturn line else line

/-- The trimmed, non-empty pieces of a comma separated list. -/
def names (s : String) : List String :=
  (((split ',' s.toList).map trim).filter (· ≠ [])).map String.ofList

/-- Cuts at the first occurrence of `needle`: what stands before it and what follows it. -/
def cutAt (needle : List Char) : List Char → Option (List Char × List Char)
  | [] => if needle = [] then some ([], []) else none
  | c :: s =>
      if needle.isPrefixOf (c :: s) then some ([], (c :: s).drop needle.length)
      else (cutAt needle s).map fun cut => (c :: cut.1, cut.2)

theorem cutAt_rest_le {needle s before rest : List Char}
    (found : cutAt needle s = some (before, rest)) : rest.length ≤ s.length := by
  induction s generalizing before rest with
  | nil =>
      unfold cutAt at found
      split at found <;> simp_all
  | cons c s ih =>
      unfold cutAt at found
      split at found
      · simp only [Option.some.injEq, Prod.mk.injEq] at found
        rw [← found.2, List.length_drop]
        exact Nat.sub_le _ _
      · obtain ⟨⟨inner, tail⟩, cut, same⟩ := Option.map_eq_some_iff.mp found
        simp only [Prod.mk.injEq] at same
        rw [← same.2]
        exact Nat.le_succ_of_le (ih cut)

/-- A text from the first occurrence of `needle` on, the whole text when there is none. -/
def fromFirst (needle s : List Char) : List Char :=
  match cutAt needle s with
  | some (_, rest) => needle ++ rest
  | none => s

theorem length_dropWhile_le (keep : Char → Bool) (s : List Char) :
    (s.dropWhile keep).length ≤ s.length := by
  induction s with
  | nil => simp
  | cons c s ih =>
      rw [List.dropWhile_cons]
      split
      · exact Nat.le_succ_of_le ih
      · exact Nat.le_refl _

example : lines "a\r\n\nb\r".toList = ["a".toList, [], "b\r".toList] := by decide
example : names " h2, ,my sql " = ["h2", "my sql"] := by decide

end Migration.Text

import Migration.Unicode.CodeSet

/-!
# Rows of bytes

The characters of a set, as an automaton reads them: each row is a range for each byte, and the
characters of a row are all that have bytes in these ranges.
-/

namespace Migration.Pattern.Automaton

open Unicode

/-- The ranges of the bytes of some characters, by their first and last values. -/
abbrev Row :=
  List (Nat × Nat)

/-- The bytes of a character. -/
def bytesOf (point : Nat) : List Nat :=
  (String.utf8EncodeChar (Char.ofNat point)).map UInt8.toNat

/-- The characters by the number of their bytes behind the first one: the first and the last of
them, and that number. -/
def lengths : List (Nat × Nat × Nat) :=
  [(0, 0x7F, 0), (0x80, 0x7FF, 1), (0x800, 0xFFFF, 2), (0x10000, 0x10FFFF, 3)]

/-- Cuts a range of characters so that each piece is one row. The next byte from the end, one of
`levels`, is free within blocks of `block` characters: a part of a block at either end of the range
is a piece of its own, and the blocks between them are cut by the byte before. -/
def pieces : (levels : Nat) → (block first last : Nat) → List (Nat × Nat)
  | 0, _, first, last => [(first, last)]
  | levels + 1, block, first, last =>
      if first / block = last / block then [(first, last)]
      else
        let start := (first + block - 1) / block * block
        let stop := (last + 1) / block * block
        (if first < start then [(first, start - 1)] else []) ++
          (if start < stop then pieces levels (64 * block) start (stop - 1) else []) ++
          if stop ≤ last then [(stop, last)] else []

/-- The rows of a range of characters, in ascending order. -/
def rowsOfRange (first last : Nat) : List Row :=
  lengths.flatMap fun (shortest, longest, levels) =>
    let first := max first shortest
    let last := min last longest
    if first ≤ last then
      (pieces levels 64 first last).map fun (first, last) => (bytesOf first).zip (bytesOf last)
    else []

/-- The rows of a set, in ascending order. -/
def rowsOf (set : CodeSet) : List Row :=
  set.ranges.flatMap fun (first, last) => rowsOfRange first last

example : rowsOfRange 0x70 0x8F = [[(0x70, 0x7F)], [(0xC2, 0xC2), (0x80, 0x8F)]] := by
  decide +kernel

end Migration.Pattern.Automaton

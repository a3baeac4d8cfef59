import Migration.Pattern.Mode
import Migration.Unicode.Derived

/-!
# Classes of characters

The classes that have a short name, in the modes in which they range over all characters and over
bytes, and the effect of letter case on a class.
-/

namespace Migration.Pattern

open Unicode

/-! ## The ASCII set -/

namespace Ascii

def digit : CodeSet :=
  .range 0x30 0x39

def upper : CodeSet :=
  .range 0x41 0x5A

def lower : CodeSet :=
  .range 0x61 0x7A

def alphabetic : CodeSet :=
  upper ∪ lower

def alphanumeric : CodeSet :=
  digit ∪ alphabetic

/-- The letters, the digits and the underscore. -/
def word : CodeSet :=
  alphanumeric ∪ .singleton 0x5F

def space : CodeSet :=
  .ofRanges [(0x9, 0xD), (0x20, 0x20)]

/-- The characters with a shape. -/
def graphic : CodeSet :=
  .range 0x21 0x7E

/-- The classes of the ASCII set. -/
def classes : List NamedSet :=
  [⟨["alnum"], alphanumeric⟩,
    ⟨["alpha"], alphabetic⟩,
    ⟨["ascii"], .range 0 0x7F⟩,
    ⟨["blank"], .ofList [0x9, 0x20]⟩,
    ⟨["cntrl"], .ofRanges [(0, 0x1F), (0x7F, 0x7F)]⟩,
    ⟨["digit"], digit⟩,
    ⟨["graph"], graphic⟩,
    ⟨["lower"], lower⟩,
    ⟨["print"], graphic ∪ .singleton 0x20⟩,
    ⟨["punct"], graphic \ alphanumeric⟩,
    ⟨["space"], space⟩,
    ⟨["upper"], upper⟩,
    ⟨["word"], word⟩,
    ⟨["xdigit"], digit ∪ .ofRanges [(0x41, 0x46), (0x61, 0x66)]⟩]

end Ascii

/-! ## Classes by mode -/

namespace Mode

/-- The class that a letter names. -/
def classOf? (mode : Mode) (letter : Char) : Option CodeSet :=
  if letter = 'd' then some (if mode.unicode then Category.decimalNumber else Ascii.digit)
  else if letter = 's' then some (if mode.unicode then whiteSpace else Ascii.space)
  else if letter = 'w' then some (if mode.unicode then wordCharacter else Ascii.word)
  else none

/-- The characters that the point stands for. -/
def pointSet (mode : Mode) : CodeSet :=
  if mode.dotAll then .all
  else if mode.returns then .all \ .ofList [0xA, 0xD]
  else .all \ .singleton 0xA

/-- A set with the characters that differ from its members in case only, where case does not
count. -/
def fold (mode : Mode) (set : CodeSet) : CodeSet :=
  if !mode.caseless then set
  else if mode.unicode then Folding.fold set
  else Folding.foldAscii set

/-- The characters that a character stands for, when there are more than one. -/
def variants? (mode : Mode) (c : Char) : Option CodeSet :=
  let set := mode.fold (.singleton c.toNat)
  if set.only?.isSome then none else some set

end Mode

end Migration.Pattern

/-!
# Letter case

Comparison that ignores the case of the letters A to Z, and of no others.
-/

namespace Migration.Text

def lower (s : List Char) : List Char :=
  s.map Char.toLower

def sameLetters (s t : List Char) : Bool :=
  lower s == lower t

/-- Equality of texts up to the case of the letters A to Z. -/
def sameIgnoringCase (s t : String) : Bool :=
  sameLetters s.toList t.toList

theorem sameIgnoringCase_refl (s : String) : sameIgnoringCase s s = true := by
  simp [sameIgnoringCase, sameLetters]

example : sameIgnoringCase "TeSt" "test" = true ∧ sameIgnoringCase "é" "É" = false := by decide

end Migration.Text

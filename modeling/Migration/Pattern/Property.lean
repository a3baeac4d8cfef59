import Migration.Text.Split
import Migration.Unicode.Age
import Migration.Unicode.Segmentation

/-!
# Characters by property

A class of characters can be named by a property of the Unicode standard: by a name alone, which is
a yes-or-no property, a general category or a script, or by a property and one of its values. Names
are compared without case, spaces, underscores, hyphens and a leading `is`.
-/

namespace Migration.Pattern.Property

open Unicode

/-- A name without what comparison leaves out. The one name that consists of `is` and the letter
`c` is kept whole. -/
def normalize (name : List Char) : String :=
  let marked := (name.take 2).map Char.toLower = ['i', 's']
  let body := if marked then name.drop 2 else name
  let kept := body.filter fun c => c ≠ ' ' && c ≠ '_' && c ≠ '-' && c.toNat < 128
  let folded := kept.map Char.toLower
  if marked && folded = ['c'] then "isc" else String.ofList folded

/-- Whether a text such as `v6_1` or `6.1`, when it is normalized, stands for a version. -/
def denotes (value version : String) : Bool :=
  value = version || value = "v" ++ String.ofList (version.toList.filter (· ≠ '.'))

/-- The characters of the versions up to the named one. -/
def assignedBy? (value : String) : Option CodeSet :=
  let (earlier, later) := ages.span fun (version, _) => !denotes value version
  later.head?.map fun (_, last) => last ∪ .union (earlier.map Prod.snd)

/-- The characters for which a property has a value, both by normalized names. -/
def withValue? (property value : String) : Option CodeSet :=
  if ["gc", "generalcategory"].contains property then NamedSet.find? Category.named value
  else if ["sc", "script"].contains property then Script.find? value
  else if ["scx", "scriptextensions"].contains property then Script.findUsed? value
  else if property = "age" then assignedBy? value
  else if ["gcb", "graphemeclusterbreak"].contains property then
    NamedSet.find? Grapheme.classes value
  else if ["sb", "sentencebreak"].contains property then NamedSet.find? Sentence.classes value
  else if ["wb", "wordbreak"].contains property then NamedSet.find? Word.classes value
  else none

/-- The characters that a normalized name alone stands for. -/
def named? (name : String) : Option CodeSet :=
  NamedSet.find? (binaryProperties ++ Category.named ++ Script.named) name

/-- Cuts at the first sign between a property and its value. -/
def cutValue (s : List Char) : Option (List Char × List Char) :=
  match Text.cutAt ['!', '='] s with
  | some cut => some cut
  | none =>
      match Text.cutAt [':'] s with
      | some cut => some cut
      | none => Text.cutAt ['='] s

/-- The characters that a text stands for as it is written in a regular expression. -/
def find? (written : List Char) : Option CodeSet :=
  match cutValue written with
  | some (property, value) => withValue? (normalize property) (normalize value)
  | none => named? (normalize written)

example : find? "Zl".toList = some (.singleton 0x2028) := by decide +kernel
example : find? "sc!=is Ahom".toList = Script.find? "ahom" := by decide +kernel
example : find? "gc=Greek".toList = none := by decide +kernel

end Migration.Pattern.Property

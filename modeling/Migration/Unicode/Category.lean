import Migration.Unicode.Category.Letter
import Migration.Unicode.Category.Mark
import Migration.Unicode.Category.Number
import Migration.Unicode.Category.Punctuation
import Migration.Unicode.Category.Separator
import Migration.Unicode.Category.Symbol

/-!
# General categories

Each character has one category. Categories are joined in groups, whose names are those of
categories too.
-/

namespace Migration.Unicode.Category

def casedLetter : CodeSet :=
  uppercaseLetter ∪ lowercaseLetter ∪ titlecaseLetter

def letter : CodeSet :=
  casedLetter ∪ modifierLetter ∪ otherLetter

def mark : CodeSet :=
  nonspacingMark ∪ spacingMark ∪ enclosingMark

def number : CodeSet :=
  decimalNumber ∪ letterNumber ∪ otherNumber

def punctuation : CodeSet :=
  .union [connectorPunctuation, dashPunctuation, openPunctuation, closePunctuation,
    initialPunctuation, finalPunctuation, otherPunctuation]

def symbol : CodeSet :=
  mathSymbol ∪ currencySymbol ∪ modifierSymbol ∪ otherSymbol

def separator : CodeSet :=
  spaceSeparator ∪ lineSeparator ∪ paragraphSeparator

/-- The characters to which the standard gives a category of their own. -/
def assigned : CodeSet :=
  .union [letter, mark, number, punctuation, symbol, separator, control, format, privateUse]

def unassigned : CodeSet :=
  assigned.complement

def other : CodeSet :=
  .union [control, format, unassigned, privateUse]

/-- The categories and their groups, and three sets that are named like categories. -/
def named : List NamedSet :=
  [⟨["any"], .all⟩,
    ⟨["ascii"], .range 0 0x7F⟩,
    ⟨["assigned"], assigned⟩,
    ⟨["other", "c"], other⟩,
    ⟨["control", "cc", "cntrl"], control⟩,
    ⟨["format", "cf"], format⟩,
    ⟨["unassigned", "cn"], unassigned⟩,
    ⟨["privateuse", "co"], privateUse⟩,
    ⟨["letter", "l"], letter⟩,
    ⟨["casedletter", "lc"], casedLetter⟩,
    ⟨["lowercaseletter", "ll"], lowercaseLetter⟩,
    ⟨["modifierletter", "lm"], modifierLetter⟩,
    ⟨["otherletter", "lo"], otherLetter⟩,
    ⟨["titlecaseletter", "lt"], titlecaseLetter⟩,
    ⟨["uppercaseletter", "lu"], uppercaseLetter⟩,
    ⟨["mark", "m", "combiningmark"], mark⟩,
    ⟨["spacingmark", "mc"], spacingMark⟩,
    ⟨["enclosingmark", "me"], enclosingMark⟩,
    ⟨["nonspacingmark", "mn"], nonspacingMark⟩,
    ⟨["number", "n"], number⟩,
    ⟨["decimalnumber", "nd", "digit"], decimalNumber⟩,
    ⟨["letternumber", "nl"], letterNumber⟩,
    ⟨["othernumber", "no"], otherNumber⟩,
    ⟨["punctuation", "p", "punct"], punctuation⟩,
    ⟨["connectorpunctuation", "pc"], connectorPunctuation⟩,
    ⟨["dashpunctuation", "pd"], dashPunctuation⟩,
    ⟨["closepunctuation", "pe"], closePunctuation⟩,
    ⟨["finalpunctuation", "pf"], finalPunctuation⟩,
    ⟨["initialpunctuation", "pi"], initialPunctuation⟩,
    ⟨["otherpunctuation", "po"], otherPunctuation⟩,
    ⟨["openpunctuation", "ps"], openPunctuation⟩,
    ⟨["symbol", "s"], symbol⟩,
    ⟨["currencysymbol", "sc"], currencySymbol⟩,
    ⟨["modifiersymbol", "sk"], modifierSymbol⟩,
    ⟨["mathsymbol", "sm"], mathSymbol⟩,
    ⟨["othersymbol", "so"], otherSymbol⟩,
    ⟨["separator", "z"], separator⟩,
    ⟨["lineseparator", "zl"], lineSeparator⟩,
    ⟨["paragraphseparator", "zp"], paragraphSeparator⟩,
    ⟨["spaceseparator", "zs"], spaceSeparator⟩]

end Migration.Unicode.Category

import RuleLexer.Text.Alphabetic
import RuleLexer.Text.Numeric

/-!
# Characters of words

A word starts with a letter and goes on with letters, number characters and underscores.
-/

namespace RuleLexer.Text

def isAlphanumeric (c : Char) : Bool :=
  isAlphabetic c || isNumeric c

def isWordChar (c : Char) : Bool :=
  isAlphanumeric c || c == '_'

theorem isAlphanumeric_of_isAlphabetic {c : Char} (h : isAlphabetic c = true) :
    isAlphanumeric c = true := by
  simp [isAlphanumeric, h]

theorem isWordChar_of_isAlphabetic {c : Char} (h : isAlphabetic c = true) :
    isWordChar c = true := by
  simp [isWordChar, isAlphanumeric_of_isAlphabetic h]

end RuleLexer.Text

import Criteria.Text.WordRange

/-! # Word characters

Words are made of letters, digits, marks and connecting punctuation of all scripts. Which characters
outside ASCII these are differs between versions of Unicode, so they are a parameter. Inside ASCII they
are the letters, the digits and the underscore, and therefore no spaces, dots, commas, quotes or
brackets.
-/

namespace Criteria.Text

/-- The characters that regular expressions take for word characters. -/
class WordClass where
  contains : Char → Bool
  contains_of_ascii (char : Char) (ascii : char.toNat < 0x80) :
    contains char = (char.isAlphanum || char = '_')

/-- Whether words are made of a character, in version 16 of Unicode. -/
def isUnicodeWord (char : Char) : Bool :=
  if char.toNat < 0x80 then
    char.isAlphanum || char = '_'
  else
    wordRanges.any fun (first, last) => first ≤ char.toNat && char.toNat ≤ last

instance : WordClass where
  contains := isUnicodeWord
  contains_of_ascii _ ascii := if_pos ascii

variable [WordClass]

/-- The characters that words are made of. -/
def isWord (char : Char) : Bool :=
  WordClass.contains char

theorem isWord_of_ascii {char : Char} (ascii : char.toNat < 0x80) :
    isWord char = (char.isAlphanum || char = '_') :=
  WordClass.contains_of_ascii char ascii

end Criteria.Text

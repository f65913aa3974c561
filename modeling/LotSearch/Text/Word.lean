import LotSearch.Text.WordTable

/-!
# Words and word boundaries

A boundary lies between two neighbouring characters when exactly one of them is a word
character; the ends of a text count as characters outside words.
-/

namespace LotSearch

/-- Whether a character belongs to words: letters, marks, decimal digits, connectors. -/
def isWord (c : Char) : Bool :=
  if c.toNat < 0x80 then c.isAlphanum || c == '_'
  else inRanges wordRangesLow c.toNat || inRanges wordRangesHigh c.toNat

namespace Text

/-- Whether a word boundary lies between a previous and a next character. -/
def boundary (previous next : Option Char) : Bool :=
  previous.any isWord != next.any isWord

end Text

end LotSearch

import LotSearch.Text.Basic

/-!
# Blank characters and trimming

A character is blank when it has the Unicode property `White_Space`.  Trimming removes blank
characters at either end and never touches the inside of a text.
-/

namespace LotSearch

/-- The code points with the property `White_Space`. -/
def blankRanges : List (Nat × Nat) :=
  [(0x09, 0x0D), (0x20, 0x20), (0x85, 0x85), (0xA0, 0xA0), (0x1680, 0x1680), (0x2000, 0x200A),
   (0x2028, 0x2029), (0x202F, 0x202F), (0x205F, 0x205F), (0x3000, 0x3000)]

/-- Whether a character has the Unicode property `White_Space`. -/
def isBlank (c : Char) : Bool := inRanges blankRanges c.toNat

namespace Text

/-- The text without leading blanks. -/
def trimStart (t : Text) : Text := t.dropWhile isBlank

/-- The text without trailing blanks. -/
def trimEnd (t : Text) : Text := dropEndWhile isBlank t

/-- The text without leading and trailing blanks. -/
def trim (t : Text) : Text := trimEnd (trimStart t)

theorem trimStart_length_le (t : Text) : (trimStart t).length ≤ t.length :=
  (List.dropWhile_sublist _).length_le

theorem trimEnd_length_le (t : Text) : (trimEnd t).length ≤ t.length :=
  dropEndWhile_length_le _ _

end Text

end LotSearch

import LotSearch.Text.CaseTable

/-!
# Letter case

Three comparisons of letters occur: by ASCII case alone, by simple case folding, which also
identifies the long s with `s` and the Kelvin sign with `k`, and by the lower-case form of a
whole text.
-/

namespace LotSearch

namespace Text

/-- The text with ASCII capitals replaced by small letters. -/
def asciiLower (t : Text) : Text := t.map Char.toLower

/-- Whether two texts agree up to ASCII case. -/
def sameAscii (s t : Text) : Bool := asciiLower s == asciiLower t

end Text

/-- The ASCII small letter that a character folds to, if it is a letter of ASCII up to simple
case folding. -/
def foldAscii (c : Char) : Char :=
  if c = 'ſ' then 's' else if c = '\u212A' then 'k' else c.toLower

namespace Text

/-- The text after a beginning that agrees with a word of small ASCII letters up to simple case
folding. -/
def afterFolded? : Text → Text → Option Text
  | [], t => some t
  | _ :: _, [] => none
  | p :: ps, c :: t => if foldAscii c = p then afterFolded? ps t else none

/-- The lower-case letters of a character, apart from a capital sigma at the end of a word. -/
def lowerChar (c : Char) : Text :=
  if c.toNat < 0x80 then [c.toLower]
  else if c = '\u0130' then ['i', '\u0307']
  else
    match lowerRuns.find? fun (first, last, step, _) =>
        first ≤ c.toNat && c.toNat ≤ last && (c.toNat - first) % step == 0 with
    | some (_, _, _, shift) => [Char.ofNat (Int.ofNat c.toNat + shift).toNat]
    | none => [c]

/-- Whether the nearest character that is not ignored for case is a cased letter. -/
def casedNext (t : Text) : Bool :=
  ((t.dropWhile fun c => inRanges caseIgnorableRanges c.toNat).head?).any fun c =>
    inRanges casedRanges c.toNat

/-- The lower-case form of the text `t` that follows the characters of `before`, which is
written backwards.  A capital sigma that ends a word becomes a final sigma. -/
def lowerAfter (before : Text) : Text → Text
  | [] => []
  | c :: t =>
      (if c = 'Σ' then (if casedNext before && !casedNext t then ['ς'] else ['σ'])
        else lowerChar c) ++ lowerAfter (c :: before) t

def lower (t : Text) : Text := lowerAfter [] t

/-- The capital of a letter of ASCII, of the long s, and any other character as it is. -/
def upperChar (c : Char) : Char := if c = 'ſ' then 'S' else c.toUpper

end Text

end LotSearch

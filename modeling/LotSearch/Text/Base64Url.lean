import LotSearch.Text.Utf8

/-!
# Base64 with the URL alphabet

Three octets are written as four characters of an alphabet of letters, digits, `-` and `_`.
Nothing is padded: one or two last octets are written as two or three characters, and a reader
refuses characters outside the alphabet, a single last character, and last characters whose
unused bits are not zero.
-/

namespace LotSearch.Base64Url

def charOf (v : Nat) : Char :=
  if v < 26 then Char.ofNat ('A'.toNat + v)
  else if v < 52 then Char.ofNat ('a'.toNat + (v - 26))
  else if v < 62 then Char.ofNat ('0'.toNat + (v - 52))
  else if v = 62 then '-'
  else '_'

def valueOf? (c : Char) : Option Nat :=
  if 'A' ≤ c && c ≤ 'Z' then some (c.toNat - 'A'.toNat)
  else if 'a' ≤ c && c ≤ 'z' then some (c.toNat - 'a'.toNat + 26)
  else if '0' ≤ c && c ≤ '9' then some (c.toNat - '0'.toNat + 52)
  else if c = '-' then some 62
  else if c = '_' then some 63
  else none

theorem valueOf?_charOf : ∀ v < 64, valueOf? (charOf v) = some v := by
  decide

def encode : Octets → Text
  | a :: b :: c :: octets =>
      charOf (a / 4) :: charOf (a % 4 * 16 + b / 16) :: charOf (b % 16 * 4 + c / 64)
        :: charOf (c % 64) :: encode octets
  | [a, b] => [charOf (a / 4), charOf (a % 4 * 16 + b / 16), charOf (b % 16 * 4)]
  | [a] => [charOf (a / 4), charOf (a % 4 * 16)]
  | [] => []

def join? : List Nat → Option Octets
  | a :: b :: c :: d :: values =>
      (join? values).map fun octets =>
        (a * 4 + b / 16) :: (b % 16 * 16 + c / 4) :: (c % 4 * 64 + d) :: octets
  | [a, b, c] =>
      if c % 4 = 0 then some [a * 4 + b / 16, b % 16 * 16 + c / 4] else none
  | [a, b] => if b % 16 = 0 then some [a * 4 + b / 16] else none
  | [_] => none
  | [] => some []

/-- The values of the characters of a text, when all belong to the alphabet. -/
def values? : Text → Option (List Nat)
  | [] => some []
  | c :: t => do
      let v ← valueOf? c
      let vs ← values? t
      return v :: vs

def decode? (t : Text) : Option Octets := (values? t).bind join?

end LotSearch.Base64Url

import LotSearch.Text.Basic

/-!
# Octets and UTF-8

Octets are natural numbers below 256.  Decoding walks over the octets once; a sequence that
cannot be completed is reported once for its longest valid beginning.
-/

namespace LotSearch

abbrev Octets := List Nat

namespace Utf8

def encodeChar (c : Char) : Octets :=
  let n := c.toNat
  if n < 0x80 then [n]
  else if n < 0x800 then [0xC0 + n / 0x40, 0x80 + n % 0x40]
  else if n < 0x10000 then [0xE0 + n / 0x1000, 0x80 + n / 0x40 % 0x40, 0x80 + n % 0x40]
  else [0xF0 + n / 0x40000, 0x80 + n / 0x1000 % 0x40, 0x80 + n / 0x40 % 0x40, 0x80 + n % 0x40]

def encode (t : Text) : Octets := t.flatMap encodeChar

@[simp] theorem encode_nil : encode [] = [] := rfl

@[simp] theorem encode_cons (c : Char) (t : Text) : encode (c :: t) = encodeChar c ++ encode t :=
  rfl

/-- A sequence that has begun: the value so far, how many octets it still needs, and the bounds
of the next one. -/
structure Partial where
  value : Nat
  missing : Nat
  low : Nat
  high : Nat

/-- What an octet at the beginning of a character leads to: a whole character, a sequence to be
completed, or neither. -/
def begin (b : Nat) : Option Char × Option Partial :=
  if b < 0x80 then (some (Char.ofNat b), none)
  else if 0xC2 ≤ b && b ≤ 0xDF then (none, some ⟨b - 0xC0, 1, 0x80, 0xBF⟩)
  else if b = 0xE0 then (none, some ⟨0, 2, 0xA0, 0xBF⟩)
  else if b = 0xED then (none, some ⟨0xD, 2, 0x80, 0x9F⟩)
  else if 0xE1 ≤ b && b ≤ 0xEF then (none, some ⟨b - 0xE0, 2, 0x80, 0xBF⟩)
  else if b = 0xF0 then (none, some ⟨0, 3, 0x90, 0xBF⟩)
  else if 0xF1 ≤ b && b ≤ 0xF3 then (none, some ⟨b - 0xF0, 3, 0x80, 0xBF⟩)
  else if b = 0xF4 then (none, some ⟨4, 3, 0x80, 0x8F⟩)
  else (none, none)

/-- The characters of a sequence of octets after a sequence that has begun; `none` stands for a
malformed sequence. -/
def decodeFrom : Option Partial → Octets → List (Option Char)
  | none, [] => []
  | some _, [] => [none]
  | none, b :: octets =>
      match begin b with
      | (some c, _) => some c :: decodeFrom none octets
      | (none, some next) => decodeFrom (some next) octets
      | (none, none) => none :: decodeFrom none octets
  | some p, b :: octets =>
      if p.low ≤ b && b ≤ p.high then
        let value := p.value * 0x40 + (b - 0x80)
        if p.missing = 1 then some (Char.ofNat value) :: decodeFrom none octets
        else decodeFrom (some ⟨value, p.missing - 1, 0x80, 0xBF⟩) octets
      else
        match begin b with
        | (some c, _) => none :: some c :: decodeFrom none octets
        | (none, some next) => none :: decodeFrom (some next) octets
        | (none, none) => none :: none :: decodeFrom none octets

/-- The characters of a sequence of octets, with the replacement character for each malformed
sequence. -/
def decodeLossy (octets : Octets) : Text :=
  (decodeFrom none octets).map fun c => c.getD '\uFFFD'

/-- The characters of a sequence of octets, when it is well formed. -/
def decode? (octets : Octets) : Option Text := (decodeFrom none octets).mapM id

def isValid (octets : Octets) : Bool := (decodeFrom none octets).all Option.isSome

end Utf8

end LotSearch

import LotSearch.Json.Reader
import LotSearch.Text.Utf8

/-!
# Percent signs for octets

A percent sign with two hexadecimal digits stands for an octet, and any other character for the
octets of its UTF-8 form.  Writing escapes the characters that a place does not allow.
-/

namespace LotSearch.Percent

def octets : Text → Octets
  | [] => []
  | ['%'] => ['%'.toNat]
  | ['%', a] => '%'.toNat :: octets [a]
  | '%' :: a :: b :: t =>
      match Json.hexValue? a, Json.hexValue? b with
      | some high, some low => (high * 16 + low) :: octets t
      | _, _ => '%'.toNat :: octets (a :: b :: t)
  | c :: t => Utf8.encodeChar c ++ octets t

/-- The text that a text stands for, with replacement characters for what is no UTF-8. -/
def decodeLossy (t : Text) : Text := Utf8.decodeLossy (octets t)

/-- The text that a text stands for, when its octets are UTF-8. -/
def decode? (t : Text) : Option Text := Utf8.decode? (octets t)

def hexDigit (v : Nat) : Char := (Nat.digitChar v).toUpper

def escapeOctet (b : Nat) : Text := ['%', hexDigit (b / 16), hexDigit (b % 16)]

def encode (mustEscape : Char → Bool) (t : Text) : Text :=
  t.flatMap fun c =>
    if mustEscape c then (Utf8.encodeChar c).flatMap escapeOctet else [c]

end LotSearch.Percent

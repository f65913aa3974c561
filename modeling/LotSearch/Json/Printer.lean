import LotSearch.Json.Value
import LotSearch.Number.Layout

/-!
# Writing JSON

Values are written without blanks.  In a text only the quote, the backslash and the control
characters are escaped; a floating-point value always shows a point or a power of ten.
-/

namespace LotSearch.Json

def hexDigit (v : Nat) : Char :=
  if v < 10 then Char.ofNat ('0'.toNat + v) else Char.ofNat ('a'.toNat + (v - 10))

def escapeChar (c : Char) : Text :=
  if c = '"' then ['\\', '"']
  else if c = '\\' then ['\\', '\\']
  else if c = '\x08' then ['\\', 'b']
  else if c = '\x0C' then ['\\', 'f']
  else if c = '\n' then ['\\', 'n']
  else if c = '\r' then ['\\', 'r']
  else if c = '\t' then ['\\', 't']
  else if c.toNat < 0x20 then
    ['\\', 'u', '0', '0', hexDigit (c.toNat / 16), hexDigit (c.toNat % 16)]
  else [c]

def escape (t : Text) : Text := t.flatMap escapeChar

def writeText (t : Text) : Text := '"' :: escape t ++ ['"']

/-- Floating-point values are positional for leading powers from `-5` to `15`. -/
def realLayout : Layout where
  positional power := -5 ≤ power && power ≤ 15
  afterInteger := ['.', '0']
  positivePower := ['+']
  tie := .toEven

def writeNumber : JsonNumber → Text
  | .whole n => Text.ofInt n
  | .real x => realLayout.write .double x

mutual

def write : Json → Text
  | null => "null".toList
  | bool true => "true".toList
  | bool false => "false".toList
  | number n => writeNumber n
  | text t => writeText t
  | list items => '[' :: writeItems items ++ [']']
  | object fields => '\x7b' :: writeFields fields ++ ['\x7d']

def writeItems : List Json → Text
  | [] => []
  | [v] => write v
  | v :: next :: items => write v ++ ',' :: writeItems (next :: items)

def writeFields : List (Text × Json) → Text
  | [] => []
  | [(name, v)] => writeText name ++ ':' :: write v
  | (name, v) :: next :: fields =>
      writeText name ++ ':' :: write v ++ ',' :: writeFields (next :: fields)

end

end LotSearch.Json

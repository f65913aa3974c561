import LotSearch.Json.Value
import LotSearch.Number.Decimal

/-!
# Reading JSON

A reader takes a value off the beginning of a text and returns it with the rest.  It stops at
the first problem from left to right and says of which of two kinds that is: the text is not
JSON, or it is JSON of another shape than asked for.  Values are either built, with bounds on
nesting and numbers, or skipped, when only their syntax counts.
-/

namespace LotSearch

/-- Why a text could not be read. -/
inductive ReadProblem where
  /-- The text is not JSON. -/
  | malformed
  /-- A value has a wrong type, or a field is missing or repeated. -/
  | mistyped
deriving Repr, DecidableEq

/-- The outcome of a reader: most return a value together with the rest of the text. -/
abbrev Reading (α : Type) := Except ReadProblem α

namespace Json

/-- Whether a character may stand between the tokens of JSON. -/
def isSpace (c : Char) : Bool := c == ' ' || c == '\n' || c == '\t' || c == '\r'

/-- The text after the spaces at its beginning. -/
def skipSpace (t : Text) : Text := t.dropWhile isSpace

/-- Splits a text behind an opening quote into the inside of the quotes and the text after the
closing quote.  A backslash protects the next character. -/
def splitQuoted : Text → Option (Text × Text)
  | [] => none
  | ['\\'] => none
  | '\\' :: c :: t => (splitQuoted t).map fun (inside, rest) => ('\\' :: c :: inside, rest)
  | c :: t =>
      if c = '"' then some ([], t)
      else (splitQuoted t).map fun (inside, rest) => (c :: inside, rest)

def hexValue? (c : Char) : Option Nat :=
  if '0' ≤ c && c ≤ '9' then some (c.toNat - '0'.toNat)
  else if 'a' ≤ c && c ≤ 'f' then some (c.toNat - 'a'.toNat + 10)
  else if 'A' ≤ c && c ≤ 'F' then some (c.toNat - 'A'.toNat + 10)
  else none

def hexUnit? (a b c d : Char) : Option Nat := do
  let a ← hexValue? a
  let b ← hexValue? b
  let c ← hexValue? c
  let d ← hexValue? d
  return ((a * 16 + b) * 16 + c) * 16 + d

def simpleEscape? : Char → Option Char
  | '"' => some '"'
  | '\\' => some '\\'
  | '/' => some '/'
  | 'b' => some '\x08'
  | 'f' => some '\x0C'
  | 'n' => some '\n'
  | 'r' => some '\r'
  | 't' => some '\t'
  | _ => none

/-- The character of a pair of surrogates. -/
def ofSurrogates (high low : Nat) : Char :=
  Char.ofNat (0x10000 + (high - 0xD800) * 0x400 + (low - 0xDC00))

/-- The text that the inside of a quoted text stands for.  A control character, an unknown
escape and a surrogate without its partner are refused. -/
def unescape? : Text → Option Text
  | [] => some []
  | '\\' :: 'u' :: a :: b :: c :: d :: t => do
      let unit ← hexUnit? a b c d
      if 0xDC00 ≤ unit && unit ≤ 0xDFFF then none
      else if 0xD800 ≤ unit && unit ≤ 0xDBFF then
        match t with
        | '\\' :: 'u' :: e :: f :: g :: h :: t =>
            let low ← hexUnit? e f g h
            if 0xDC00 ≤ low && low ≤ 0xDFFF then
              (unescape? t).map (ofSurrogates unit low :: ·)
            else none
        | _ => none
      else (unescape? t).map (Char.ofNat unit :: ·)
  | '\\' :: c :: t => do
      let c ← simpleEscape? c
      (unescape? t).map (c :: ·)
  | c :: t => if c.toNat < 0x20 || c = '\\' then none else (unescape? t).map (c :: ·)

/-- Whether the inside of a quoted text is well formed, surrogates without partner included. -/
def wellEscaped : Text → Bool
  | [] => true
  | '\\' :: 'u' :: a :: b :: c :: d :: t => (hexUnit? a b c d).isSome && wellEscaped t
  | '\\' :: c :: t => (simpleEscape? c).isSome && wellEscaped t
  | c :: t => !(c.toNat < 0x20 || c = '\\') && wellEscaped t

/-- Reads the rest of a quoted text behind its opening quote. -/
def readQuoted (t : Text) : Reading (Text × Text) :=
  match splitQuoted t with
  | none => .error .malformed
  | some (inside, rest) =>
      match unescape? inside with
      | none => .error .malformed
      | some value => .ok (value, rest)

/-- Skips the rest of a quoted text behind its opening quote. -/
def skipQuoted (t : Text) : Reading (Unit × Text) :=
  match splitQuoted t with
  | none => .error .malformed
  | some (inside, rest) => if wellEscaped inside then .ok ((), rest) else .error .malformed

/-- The parts of a number as it is written. -/
structure Numeral where
  negative : Bool
  whole : Text
  fraction : Text
  /-- The power of ten, when one is written. -/
  power : Option Int
deriving Repr, DecidableEq

namespace Numeral

/-- Whether the number is written without point and power. -/
def isWhole (n : Numeral) : Bool := n.fraction.isEmpty && n.power.isNone

/-- The floating-point value nearest to the number, if there is a finite one. -/
def toReal? (n : Numeral) : Option JsonNumber :=
  ((Decimal.ofParts n.negative n.whole n.fraction (n.power.getD 0)).toDyadic? .double).map .real

/-- The value of a number: an integer where it is written as one and fits 64 bits, else the
nearest floating-point value.  A negative zero is a floating-point value. -/
def toNumber? (n : Numeral) : Option JsonNumber :=
  if n.isWhole then
    let value : Int := Text.digitsValue n.whole
    if n.negative then
      if value = 0 || -value < minInt64 then n.toReal? else some (.whole (-value))
    else if value ≤ maxUInt64 then some (.whole value)
    else n.toReal?
  else n.toReal?

end Numeral

/-- Reads a point and at least one digit, if a point follows. -/
def readFraction (t : Text) : Reading (Text × Text) :=
  match t with
  | '.' :: r =>
      let digits := r.takeWhile isAsciiDigit
      if digits.isEmpty then .error .malformed else .ok (digits, r.dropWhile isAsciiDigit)
  | _ => .ok ([], t)

/-- Reads a power of ten, if one follows. -/
def readPower (t : Text) : Reading (Option Int × Text) :=
  match t with
  | c :: r =>
      if c = 'e' || c = 'E' then
        match r with
        | '-' :: r => (digits r).map fun (n, rest) => (some (-n), rest)
        | '+' :: r => (digits r).map fun (n, rest) => (some n, rest)
        | r => (digits r).map fun (n, rest) => (some n, rest)
      else .ok (none, t)
  | [] => .ok (none, t)
where
  /-- At least one digit. -/
  digits (t : Text) : Reading (Int × Text) :=
    let digits := t.takeWhile isAsciiDigit
    if digits.isEmpty then .error .malformed
    else .ok (Text.digitsValue digits, t.dropWhile isAsciiDigit)

/-- Reads an unsigned number.  A leading zero stands alone. -/
def readUnsigned (negative : Bool) (t : Text) : Reading (Numeral × Text) := do
  let whole := t.takeWhile isAsciiDigit
  if whole.isEmpty || (whole.length ≠ 1 && whole.head? = some '0') then .error .malformed
  else
    let (fraction, t) ← readFraction (t.dropWhile isAsciiDigit)
    let (power, t) ← readPower t
    return (⟨negative, whole, fraction, power⟩, t)

def readNumeral : Text → Reading (Numeral × Text)
  | '-' :: t => readUnsigned true t
  | t => readUnsigned false t

def readNumber (t : Text) : Reading (JsonNumber × Text) := do
  let (numeral, t) ← readNumeral t
  match numeral.toNumber? with
  | some n => return (n, t)
  | none => .error .malformed

def readWord (word : Text) (t : Text) : Reading Text :=
  match Text.after? word t with
  | some rest => .ok rest
  | none => .error .malformed

/-- Reads the colon behind a name. -/
def readColon (t : Text) : Reading Text :=
  match skipSpace t with
  | ':' :: rest => .ok rest
  | _ => .error .malformed

/-- Reads the items of a list behind its first one, at most `fuel`. -/
def readMoreItems {α : Type} (item : Text → Reading (α × Text)) :
    Nat → Text → Reading (List α × Text)
  | 0, _ => .error .malformed
  | fuel + 1, t =>
      match skipSpace t with
      | ']' :: rest => .ok ([], rest)
      | ',' :: rest => do
          let (v, rest) ← item rest
          let (vs, rest) ← readMoreItems item fuel rest
          return (v :: vs, rest)
      | _ => .error .malformed

/-- Reads the items of a list behind its opening bracket. -/
def readItems {α : Type} (item : Text → Reading (α × Text)) (t : Text) :
    Reading (List α × Text) :=
  match skipSpace t with
  | ']' :: rest => .ok ([], rest)
  | t => do
      let (v, rest) ← item t
      let (vs, rest) ← readMoreItems item rest.length rest
      return (v :: vs, rest)

/-- Reads the quoted name of a field, with a reader for the text behind the opening quote. -/
def readName {ν : Type} (quoted : Text → Reading (ν × Text)) (t : Text) : Reading (ν × Text) :=
  match skipSpace t with
  | '"' :: t => quoted t
  | _ => .error .malformed

/-- Reads the fields of an object behind its first one, at most `fuel`.  Each field changes a
state, given the text behind its name. -/
def readMoreFields {ν σ : Type} (quoted : Text → Reading (ν × Text))
    (field : σ → ν → Text → Reading (σ × Text)) : Nat → σ → Text → Reading (σ × Text)
  | 0, _, _ => .error .malformed
  | fuel + 1, s, t =>
      match skipSpace t with
      | '\x7d' :: rest => .ok (s, rest)
      | ',' :: rest => do
          let (name, rest) ← readName quoted rest
          let (s, rest) ← field s name rest
          readMoreFields quoted field fuel s rest
      | _ => .error .malformed

/-- Reads the fields of an object behind its opening brace. -/
def readFields {ν σ : Type} (quoted : Text → Reading (ν × Text))
    (field : σ → ν → Text → Reading (σ × Text)) (s : σ) (t : Text) : Reading (σ × Text) :=
  match skipSpace t with
  | '\x7d' :: rest => .ok (s, rest)
  | t => do
      let (name, rest) ← readName quoted t
      let (s, rest) ← field s name rest
      readMoreFields quoted field rest.length s rest

/-- Reads a field of an object of any values: its value is set under its name. -/
def readNamed (value : Text → Reading (Json × Text)) (fields : Fields) (name : Text) (t : Text) :
    Reading (Fields × Text) := do
  let t ← readColon t
  let (v, t) ← value t
  return (Fields.insert name v fields, t)

/-- Reads a value in which at most `depth` lists and objects are nested. -/
def readValue (depth : Nat) (t : Text) : Reading (Json × Text) :=
  match skipSpace t with
  | '"' :: t => do
      let (value, t) ← readQuoted t
      return (text value, t)
  | '[' :: t =>
      match depth with
      | 0 => .error .malformed
      | depth + 1 => do
          let (items, t) ← readItems (readValue depth) t
          return (list items, t)
  | '\x7b' :: t =>
      match depth with
      | 0 => .error .malformed
      | depth + 1 => do
          let (fields, t) ← readFields readQuoted (readNamed (readValue depth)) [] t
          return (object fields, t)
  | 'n' :: t => do
      let t ← readWord "ull".toList t
      return (null, t)
  | 't' :: t => do
      let t ← readWord "rue".toList t
      return (bool true, t)
  | 'f' :: t => do
      let t ← readWord "alse".toList t
      return (bool false, t)
  | t => do
      let (n, t) ← readNumber t
      return (number n, t)

/-- Skips a value in which at most `depth` lists and objects are nested. -/
def skipValue (depth : Nat) (t : Text) : Reading (Unit × Text) :=
  match skipSpace t with
  | '"' :: t => skipQuoted t
  | '[' :: t =>
      match depth with
      | 0 => .error .malformed
      | depth + 1 => do
          let (_, t) ← readItems (skipValue depth) t
          return ((), t)
  | '\x7b' :: t =>
      match depth with
      | 0 => .error .malformed
      | depth + 1 =>
          readFields skipQuoted (fun _ _ t => do
            let t ← readColon t
            skipValue depth t) () t
  | 'n' :: t => do
      let t ← readWord "ull".toList t
      return ((), t)
  | 't' :: t => do
      let t ← readWord "rue".toList t
      return ((), t)
  | 'f' :: t => do
      let t ← readWord "alse".toList t
      return ((), t)
  | t => do
      let (_, t) ← readNumeral t
      return ((), t)

/-- Reads a text that is one value, with at most `depth` nested lists and objects. -/
def read? (depth : Nat) (t : Text) : Option Json :=
  match readValue depth t with
  | .ok (v, rest) => if (skipSpace rest).isEmpty then some v else none
  | .error _ => none

end Json

end LotSearch

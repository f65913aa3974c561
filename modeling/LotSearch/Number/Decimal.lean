import LotSearch.Number.Dyadic
import LotSearch.Text.Digit

/-!
# Decimal numerals

A numeral is a sign, digits with an optional point, and an optional power of ten.  Its exact
value is a quotient of natural numbers, from which the nearest floating-point value is taken.
-/

namespace LotSearch

/-- The number `digits * 10 ^ exponent` with a sign. -/
structure Decimal where
  negative : Bool
  digits : Nat
  exponent : Int
deriving Repr, DecidableEq

namespace Decimal

/-- The numerator of the absolute value as a quotient. -/
def num (d : Decimal) : Nat := d.digits * Nat.pow 10 d.exponent.toNat

/-- The denominator of the absolute value as a quotient. -/
def den (d : Decimal) : Nat := Nat.pow 10 (-d.exponent).toNat

/-- The number of decimal digits of a natural number, at least one. -/
def digitCount (n : Nat) : Nat := (Nat.toDigits 10 n).length

/-- No number of magnitude `10 ^ 400` or more is finite in either format, and every number
below `10 ^ (-400)` rounds to zero. -/
def magnitudeBound : Int := 400

/-- The nearest value of the format, and nothing beyond its greatest value. -/
def toDyadic? (format : BinaryFormat) (d : Decimal) : Option Dyadic :=
  let magnitude : Int := (digitCount d.digits : Int) + d.exponent
  if d.digits = 0 || magnitude < -magnitudeBound then Dyadic.ofQuotient? format d.negative 0 1
  else if magnitudeBound < magnitude then none
  else Dyadic.ofQuotient? format d.negative d.num d.den

/-- The number written by digits around a point and a power of ten. -/
def ofParts (negative : Bool) (whole fraction : Text) (power : Int) : Decimal :=
  ⟨negative, Text.digitsValue (whole ++ fraction), power - fraction.length⟩

end Decimal

/-- A reading of a numeral as a floating-point value. -/
inductive FloatReading where
  | finite (value : Dyadic)
  | infinite (negative : Bool)
  | notANumber
deriving Repr, DecidableEq

namespace FloatReading

def finite? : FloatReading → Option Dyadic
  | finite value => some value
  | _ => none

end FloatReading

namespace Text

/-- Reads the power of ten of a numeral: nothing, or `e` with an optional sign and digits. -/
def powerOfTen? : Text → Option Int
  | [] => some 0
  | c :: t =>
      if c = 'e' || c = 'E' then integer? t else none

/-- Reads an unsigned numeral: digits with an optional point and at least one digit, and an
optional power of ten. -/
def numeral? (negative : Bool) (t : Text) : Option Decimal :=
  let whole := t.takeWhile isAsciiDigit
  let rest := t.dropWhile isAsciiDigit
  match rest with
  | '.' :: r =>
      let fraction := r.takeWhile isAsciiDigit
      if whole.isEmpty && fraction.isEmpty then none
      else (powerOfTen? (r.dropWhile isAsciiDigit)).map
        (Decimal.ofParts negative whole fraction)
  | r =>
      if whole.isEmpty then none
      else (powerOfTen? r).map (Decimal.ofParts negative whole [])

/-- Reads an unsigned floating-point value: a numeral, or a word for infinity or for no number
in any case. -/
def unsignedFloat? (format : BinaryFormat) (negative : Bool) (t : Text) : Option FloatReading :=
  let word := asciiWord t
  if word = "inf".toList || word = "infinity".toList then some (.infinite negative)
  else if word = "nan".toList then some .notANumber
  else (numeral? negative t).map fun d =>
    match d.toDyadic? format with
    | some value => .finite value
    | none => .infinite negative
where
  /-- The text with small letters. -/
  asciiWord (t : Text) : Text := t.map Char.toLower

/-- Reads a floating-point value with an optional sign. -/
def float? (format : BinaryFormat) : Text → Option FloatReading
  | '-' :: t => unsignedFloat? format true t
  | '+' :: t => unsignedFloat? format false t
  | t => unsignedFloat? format false t

end Text

end LotSearch

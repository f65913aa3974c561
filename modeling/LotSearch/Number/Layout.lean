import LotSearch.Number.Shortest

/-!
# How a number is written

The digits of a number are written positionally, with a point among them or zeros around them,
or with one digit before the point and a power of ten.  A layout says for which leading powers
the positional form is taken, whether an integer keeps a zero after the point, and how the power
is marked.
-/

namespace LotSearch

/-- The decisions of one written form of floating-point values. -/
structure Layout where
  /-- Whether a leading power of ten is written positionally. -/
  positional : Int → Bool
  /-- What is written after the digits of an integer in positional form. -/
  afterInteger : Text
  /-- What is written before the digits of a positive power of ten. -/
  positivePower : Text
  tie : Tie

namespace Layout

/-- Digits written positionally, the first of them at the given power of ten. -/
def positionalText (afterInteger digits : Text) (power : Int) : Text :=
  if power < 0 then
    "0.".toList ++ List.replicate (-power - 1).toNat '0' ++ digits
  else
    let whole := power.toNat + 1
    if digits.length ≤ whole then
      digits ++ List.replicate (whole - digits.length) '0' ++ afterInteger
    else digits.take whole ++ '.' :: digits.drop whole

/-- Digits written with one digit before the point and a power of ten. -/
def scientificText (positivePower digits : Text) (power : Int) : Text :=
  let mantissa :=
    match digits with
    | first :: second :: rest => first :: '.' :: second :: rest
    | digits => digits
  mantissa ++ 'e' :: (if power < 0 then Text.ofInt power else positivePower ++ Text.ofInt power)

/-- The written form of a decimal without trailing zeros. -/
def writeDecimal (layout : Layout) (d : Decimal) : Text :=
  let digits := Text.ofNat d.digits
  let power : Int := if d.digits = 0 then 0 else d.exponent + digits.length - 1
  (if d.negative then ['-'] else []) ++
    if layout.positional power then positionalText layout.afterInteger digits power
    else scientificText layout.positivePower digits power

def write (layout : Layout) (format : BinaryFormat) (x : Dyadic) : Text :=
  layout.writeDecimal (x.shortest format layout.tie).normal

end Layout

end LotSearch

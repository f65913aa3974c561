import LotSearch.Number.Decimal

/-!
# Shortest decimal digits

A floating-point value is written with the fewest decimal digits that read back as the same
value, and with the nearest such digits.  For each count of digits the value has two neighbours
on the grid of decimals with that many digits; the first grid on which a neighbour reads back is
taken.
-/

namespace LotSearch

/-- Which of two equally near digits is taken. -/
inductive Tie where
  | toEven
  | up
deriving Repr, DecidableEq

namespace Dyadic

/-- The power of ten of the leading decimal digit of a positive quotient. -/
def leadingPower (num den : Nat) : Int :=
  let count := Decimal.digitCount (num / den)
  if den ≤ num then (count : Int) - 1
  else
    -- the first multiple by a power of ten that reaches one
    let count := Decimal.digitCount (den / num)
    if den ≤ num * Nat.pow 10 (count - 1) then 1 - (count : Int) else -(count : Int)

/-- Whether digits with a power of ten read back as `x`. -/
def readsBack (format : BinaryFormat) (x : Dyadic) (digits : Nat) (exponent : Int) : Bool :=
  Decimal.toDyadic? format ⟨x.negative, digits, exponent⟩ == some x

/-- The nearer neighbour of `x` on the grid of multiples of `10 ^ exponent`, among those that
read back as `x`. -/
def neighbour? (format : BinaryFormat) (tie : Tie) (x : Dyadic) (exponent : Int) :
    Option Decimal :=
  let num := x.num * Nat.pow 10 (-exponent).toNat
  let den := x.den * Nat.pow 10 exponent.toNat
  let below := num / den
  let upper := den < 2 * (num % den) ||
    (den == 2 * (num % den) && (tie == .up || below % 2 == 1))
  let nearer := if upper then below + 1 else below
  let farther := if upper then below else below + 1
  if readsBack format x nearer exponent then some ⟨x.negative, nearer, exponent⟩
  else if readsBack format x farther exponent then some ⟨x.negative, farther, exponent⟩
  else none

def exactDecimal (x : Dyadic) : Decimal :=
  if x.exponent < 0 then
    ⟨x.negative, x.significand * Nat.pow 5 (-x.exponent).toNat, x.exponent⟩
  else ⟨x.negative, x.significand * Nat.pow 2 x.exponent.toNat, 0⟩

/-- The digits at the first of the given counts that has some. -/
def firstDigits? (format : BinaryFormat) (tie : Tie) (x : Dyadic) (power : Int) :
    List Nat → Option Decimal
  | [] => none
  | count :: counts =>
      match neighbour? format tie x (power - (count : Int) + 1) with
      | some d => some d
      | none => firstDigits? format tie x power counts

/-- The shortest decimal that reads back as `x`; seventeen digits always suffice for the formats
in use, and the exact decimal stands behind them. -/
def shortest (format : BinaryFormat) (tie : Tie) (x : Dyadic) : Decimal :=
  if x.isZero then ⟨x.negative, 0, 0⟩
  else
    (firstDigits? format tie x (leadingPower x.num x.den) (List.range' 1 17)).getD
      x.exactDecimal

end Dyadic

namespace Decimal

/-- Removes at most `fuel` trailing zeros from the digits. -/
def stripZeros : Nat → Decimal → Decimal
  | 0, d => d
  | fuel + 1, d =>
      if d.digits ≠ 0 && d.digits % 10 = 0 then
        stripZeros fuel ⟨d.negative, d.digits / 10, d.exponent + 1⟩
      else d

/-- The same number with no trailing zero among its digits. -/
def normal (d : Decimal) : Decimal := stripZeros (digitCount d.digits) d

end Decimal

end LotSearch

/-!
# Binary floating-point values

A finite floating-point value is a sign and a natural multiple of a power of two.  A format
bounds the multiple and the power; every rational number rounds to the nearest value of the
format, and a number halfway between two goes to the one with the even multiple.  All
arithmetic is exact arithmetic of natural numbers followed by one rounding.
-/

namespace LotSearch

/-- The value `significand * 2 ^ exponent`, with a sign that also marks zero. -/
structure Dyadic where
  negative : Bool
  significand : Nat
  exponent : Int
deriving Repr, DecidableEq, Inhabited

/-- The number of bits of a significand, and the least and greatest exponent. -/
structure BinaryFormat where
  precision : Nat
  minExponent : Int
  maxExponent : Int
deriving Repr, DecidableEq

namespace BinaryFormat

def double : BinaryFormat := ⟨53, -1074, 971⟩

/-- Values of 32 bits. -/
def single : BinaryFormat := ⟨24, -149, 104⟩

end BinaryFormat

/-- The quotient of natural numbers rounded to the nearest integer, halves to even. -/
def divNearest (num den : Nat) : Nat :=
  let q := num / den
  let r := num % den
  if 2 * r < den then q
  else if den < 2 * r then q + 1
  else if q % 2 = 0 then q
  else q + 1

namespace Dyadic

/-- The exponent at which a positive quotient has a significand of full precision, or the least
exponent of the format. -/
def exponentFor (format : BinaryFormat) (num den : Nat) : Int :=
  let near : Int := (Nat.log2 num : Int) - (Nat.log2 den : Int) - (format.precision : Int)
  -- the quotient at `near` has `precision` bits or one more
  let bound : Int := near + (format.precision : Int)
  let fits : Bool := num * Nat.pow 2 (-bound).toNat < den * Nat.pow 2 bound.toNat
  max (if fits then near else near + 1) format.minExponent

/-- The value of the format nearest to a quotient, and nothing when that lies beyond its
greatest value. -/
def ofQuotient? (format : BinaryFormat) (negative : Bool) (num den : Nat) : Option Dyadic :=
  if num = 0 then some ⟨negative, 0, format.minExponent⟩
  else
    let e := exponentFor format num den
    let m := divNearest (num * Nat.pow 2 (-e).toNat) (den * Nat.pow 2 e.toNat)
    if m < Nat.pow 2 format.precision then
      if e ≤ format.maxExponent then some ⟨negative, m, e⟩ else none
    else
      if e + 1 ≤ format.maxExponent then some ⟨negative, m / 2, e + 1⟩ else none

/-- The numerator of the absolute value as a quotient. -/
def num (x : Dyadic) : Nat := x.significand * Nat.pow 2 x.exponent.toNat

/-- The denominator of the absolute value as a quotient. -/
def den (x : Dyadic) : Nat := Nat.pow 2 (-x.exponent).toNat

theorem den_pos (x : Dyadic) : 0 < x.den := Nat.two_pow_pos _

def isZero (x : Dyadic) : Bool := x.significand == 0

def isInteger (x : Dyadic) : Bool := x.num % x.den == 0

/-- Whether two values are the same number; the two zeros are. -/
def same (x y : Dyadic) : Bool := x == y || (x.isZero && y.isZero)

/-- The absolute value times a natural number, rounded to the format. -/
def scale? (format : BinaryFormat) (k : Nat) (x : Dyadic) : Option Dyadic :=
  ofQuotient? format x.negative (x.num * k) x.den

/-- The same number rounded to another format. -/
def convert? (format : BinaryFormat) (x : Dyadic) : Option Dyadic :=
  ofQuotient? format x.negative x.num x.den

end Dyadic

end LotSearch

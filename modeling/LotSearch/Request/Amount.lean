import LotSearch.Number.Layout

/-!
# Amounts

An amount is a number with perhaps a multiplier, as a floating-point value.  A product beyond
the greatest value is infinite.  Integers below `10 ^ 15` are written exactly, other values with
their shortest digits, and never with a power of ten.
-/

namespace LotSearch

/-- An amount: a finite floating-point value, or infinity. -/
abbrev Amount := Option Dyadic

namespace Amount

/-- The finite value of a numeral in which commas are ignored. -/
def read? (t : Text) : Option Dyadic :=
  (Text.float? .double (t.filter (· != ','))).bind FloatReading.finite?

/-- How often a unit counts. -/
def multiplier (unit : Option Text) : Nat :=
  match unit.map String.ofList with
  | some "million" | some "mil" | some "m" => 1000000
  | some "thousand" | some "k" => 1000
  | _ => 1

def inUnit (unit : Option Text) (value : Dyadic) : Amount := value.scale? .double (multiplier unit)

/-- Values are positional, and an integer has no point. -/
def layout : Layout where
  positional _ := true
  afterInteger := []
  positivePower := []
  tie := .up

/-- Integers below this bound are written exactly. -/
def exactBound : Nat := 1000000000000000

def write : Amount → Text
  | none => "inf".toList
  | some x =>
      if x.isInteger && x.num / x.den < exactBound then
        let n := x.num / x.den
        if x.negative && n != 0 then '-' :: Text.ofNat n else Text.ofNat n
      else layout.write .double x

/-- A number with a comma before every third digit from the end. -/
def group : Text → Text
  | [] => []
  | c :: t =>
      if t.length % 3 = 0 && t.head?.any isAsciiDigit then c :: ',' :: group t else c :: group t

/-- The amount as it stands in an explanation, with commas in its integer part. -/
def writeGrouped (a : Amount) : Text :=
  let digits := a.write
  group (digits.takeWhile (· != '.')) ++ digits.dropWhile (· != '.')

end Amount

end LotSearch

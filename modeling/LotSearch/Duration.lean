import LotSearch.Text.Digit

/-!
# Durations

A duration of whole milliseconds is written in seconds from one second on, and in milliseconds
below; decimals of a second are kept without trailing zeros.
-/

namespace LotSearch

/-- A span of time in milliseconds. -/
structure Duration where
  milliseconds : Nat
deriving Repr, DecidableEq

namespace Duration

def ofSeconds (n : Nat) : Duration := ⟨n * 1000⟩

/-- The decimals of a number of thousandths, with a point, and nothing for zero. -/
def decimals (thousandths : Nat) : Text :=
  if thousandths = 0 then []
  else
    let digits := [thousandths / 100, thousandths / 10 % 10, thousandths % 10]
    '.' :: Text.dropEndWhile (· == '0') (digits.flatMap Text.ofNat)

def write (d : Duration) : Text :=
  if d.milliseconds = 0 then "0ns".toList
  else if d.milliseconds < 1000 then Text.ofNat d.milliseconds ++ "ms".toList
  else
    Text.ofNat (d.milliseconds / 1000) ++ decimals (d.milliseconds % 1000) ++ ['s']

end Duration

end LotSearch

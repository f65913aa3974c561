import LotSearch.Number.Layout

/-!
# Written temperatures

A temperature is a floating-point value of 32 bits.  It is written positionally for leading
powers of ten from `-4` to `15`, and always shows that it is no integer.
-/

namespace LotSearch

namespace FloatReading

def temperatureLayout : Layout where
  positional power := -4 ≤ power && power ≤ 15
  afterInteger := ['.', '0']
  positivePower := []
  tie := .up

def writeTemperature : FloatReading → Text
  | finite value => temperatureLayout.write .single value
  | infinite true => "-inf".toList
  | infinite false => "inf".toList
  | notANumber => "NaN".toList

end FloatReading

end LotSearch

import LotSearch.Lots.Table
import LotSearch.Request.Search

/-!
# The statement for a search

Every part of a search becomes one condition; the conditions are joined by `AND` in a fixed
order.  The kind of property may also order the lots.
-/

namespace LotSearch

namespace Intent

def condition? : Intent → Option Text
  | underdeveloped =>
      some ("(builtfar < ".toList ++ Lots.maxFar.toList ++ " * 0.5 OR builtfar IS NULL)".toList)
  | vacant => some "(built_status = 'vacant' OR is_vacant = true)".toList
  | commercial => some "LEFT(bldgclass, 1) IN ('K', 'O', 'L')".toList
  | residential .singleFamily => some "LEFT(bldgclass, 1) = 'A'".toList
  | residential .multiFamily => some "LEFT(bldgclass, 1) IN ('C', 'D')".toList
  | residential .any => some "LEFT(bldgclass, 1) IN ('A', 'B', 'C', 'D', 'R')".toList
  | mixedUse => some "(LEFT(bldgclass, 1) = 'S' OR landuse = '04')".toList
  | highLandValue => some (Lots.valueRatio.toList ++ " > 0.7".toList)
  | airRights => some (Lots.maxFar.toList ++ " > builtfar * 1.5".toList)
  | historic before =>
      some ("yearbuilt < ".toList ++ Text.ofNat before ++ " AND yearbuilt > 0".toList)
  | largeLot => some "lotarea > 10000".toList
  | unrecognized => none

/-- The order of lots of the kind. -/
def order? : Intent → Option Text
  | underdeveloped => some "development_potential DESC NULLS LAST".toList
  | highLandValue => some "value_ratio DESC NULLS LAST".toList
  | airRights => some "development_potential DESC NULLS LAST".toList
  | historic _ => some "yearbuilt ASC".toList
  | largeLot => some "lotarea DESC NULLS LAST".toList
  | _ => none

end Intent

/-- The condition that a column compares with an amount. -/
def Threshold.condition (column : String) (t : Threshold) : Text :=
  column.toList ++ ' ' :: t.comparison.symbol.toList ++ ' ' :: t.amount.write

/-- The condition on the year of construction.  Year zero stands for an unknown year. -/
def YearBound.condition : YearBound → Text
  | newerThan year => "yearbuilt > ".toList ++ Text.ofNat year
  | olderThan year => "yearbuilt < ".toList ++ Text.ofNat year ++ " AND yearbuilt > 0".toList

namespace Search

def filters (s : Search) : List Text :=
  (s.borough.map fun b => "borough = '".toList ++ b.code.toList ++ ['\'']).toList
    ++ (s.district.map fun d => "zonedist1 LIKE '".toList ++ d ++ "%'".toList).toList
    ++ (s.lotArea.map (Threshold.condition "lotarea")).toList
    ++ (s.assessedValue.map (Threshold.condition "assesstot")).toList
    ++ (s.yearBuilt.map YearBound.condition).toList
    ++ (if s.opportunityZone then ["is_opportunity_zone = true".toList] else [])

def conditions (s : Search) : List Text := s.intent.condition?.toList ++ s.filters

/-- The statement before its row bound. -/
def unbounded (s : Search) : Text :=
  Lots.baseSelect
    ++ (if s.conditions.isEmpty then [] else
        " WHERE ".toList ++ Text.join " AND ".toList s.conditions)
    ++ (match s.intent.order? with
        | some order => " ORDER BY ".toList ++ order
        | none => [])

def statement (s : Search) : Text := s.unbounded ++ " LIMIT ".toList ++ Text.ofInt s.limit

end Search

end LotSearch

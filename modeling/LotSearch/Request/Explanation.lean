import LotSearch.Request.Search

/-!
# The explanation of a search

The explanation tells the caller how a request was understood: the kind of property, each bound
in the order of the conditions, the order of the lots, the keywords of a request that was not
understood, and a row bound below the ceiling.
-/

namespace LotSearch

namespace Intent

def phrase : Intent → Text
  | underdeveloped =>
      "Finding underdeveloped properties built to less than half of their allowed density".toList
  | vacant => "Finding vacant lots".toList
  | commercial =>
      "Finding commercial properties (retail, office and loft building classes)".toList
  | residential .singleFamily => "Finding single-family homes".toList
  | residential .multiFamily => "Finding multi-family residential buildings".toList
  | residential .any => "Finding residential properties".toList
  | mixedUse => "Finding mixed-use properties".toList
  | highLandValue =>
      "Finding properties where land accounts for more than 70% of the assessed value".toList
  | airRights =>
      "Finding properties with unused air rights ".toList
        ++ "(allowed density over 1.5 times the built density)".toList
  | historic before => "Finding buildings built before ".toList ++ Text.ofNat before
  | largeLot => "Finding large lots over 10,000 square feet".toList
  | unrecognized => "Showing properties".toList

/-- The order of the lots in words. -/
def orderWords? : Intent → Option Text
  | underdeveloped => some "development potential, highest first".toList
  | highLandValue => some "land value ratio, highest first".toList
  | airRights => some "development potential, highest first".toList
  | historic _ => some "year built, oldest first".toList
  | largeLot => some "lot area, largest first".toList
  | _ => none

end Intent

def YearBound.clause : YearBound → Text
  | newerThan year => " built after ".toList ++ Text.ofNat year
  | olderThan year => " built before ".toList ++ Text.ofNat year

namespace Search

def clauses (s : Search) : List Text :=
  (s.borough.map fun b => " in ".toList ++ b.title.toList).toList
    ++ (s.district.map fun d => " zoned ".toList ++ d).toList
    ++ (s.lotArea.map fun t =>
        " with lot area ".toList ++ t.comparison.words.toList ++ ' ' :: t.amount.writeGrouped
          ++ " square feet".toList).toList
    ++ (s.assessedValue.map fun t =>
        " with total assessed value ".toList ++ t.comparison.words.toList ++ " $".toList
          ++ t.amount.writeGrouped).toList
    ++ (s.yearBuilt.map YearBound.clause).toList
    ++ (if s.opportunityZone then [" inside an Opportunity Zone".toList] else [])

/-- What is said when no kind of property was recognized. -/
def keywordSentence (keywords : List Text) : Text :=
  if keywords.isEmpty then
    " No specific property type was recognized, so no type filter was applied.".toList
  else
    " No specific property type was recognized from the keywords: ".toList
      ++ Text.join ", ".toList keywords ++ ['.']

/-- The explanation of a search that was read from a text with the given keywords. -/
def explanation (s : Search) (keywords : List Text) : Text :=
  s.intent.phrase ++ s.clauses.flatten ++ ['.']
    ++ (match s.intent.orderWords? with
        | some words => " Sorted by ".toList ++ words ++ ['.']
        | none => [])
    ++ (if s.intent = .unrecognized then keywordSentence keywords else [])
    ++ (if s.limit < Statement.rowCeiling then
        " Showing up to ".toList ++ Text.ofInt s.limit ++ " results.".toList
      else [])

end Search

end LotSearch

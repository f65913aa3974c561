import LotSearch.Lots.Borough
import LotSearch.Request.Amount
import LotSearch.Request.Vocabulary
import LotSearch.Statement.Gate

/-!
# What a request asks for

The lower-case form of a request is read for one kind of property and for independent bounds on
the lots.  The kinds are tried in a fixed order, and the first one that is mentioned is taken.
-/

namespace LotSearch

inductive Homes where
  | singleFamily
  | multiFamily
  | any
deriving Repr, DecidableEq

/-- The kind of property that a request is about. -/
inductive Intent where
  | underdeveloped
  | vacant
  | commercial
  | residential (homes : Homes)
  | mixedUse
  | highLandValue
  | airRights
  | historic (before : Nat)
  | largeLot
  | unrecognized
deriving Repr, DecidableEq

namespace Intent

/-- The year of a text of four ASCII digits. -/
def year? (digits : Text) : Option Nat := Text.natural? digits

/-- The year before which a building counts as historic. -/
def historicYear (lower : Text) : Nat :=
  match ((Vocabulary.beforeYear.find lower).bind fun f => f.groupText? 1).bind year? with
  | some year => year
  | none =>
      if Vocabulary.preWar.occursIn lower then 1945
      else if Vocabulary.historicKeyword.occursIn lower then 1930
      else 1950

def homes (lower : Text) : Homes :=
  if Vocabulary.singleFamily.occursIn lower then .singleFamily
  else if Vocabulary.multiFamily.occursIn lower then .multiFamily
  else .any

/-- The kind of property that is mentioned first in the order of kinds. -/
def ofLower (lower : Text) : Intent :=
  if Vocabulary.underdeveloped.occursIn lower then underdeveloped
  else if Vocabulary.vacant.occursIn lower then vacant
  else if Vocabulary.commercial.occursIn lower then commercial
  else if Vocabulary.residential.occursIn lower then residential (homes lower)
  else if Vocabulary.mixedUse.occursIn lower then mixedUse
  else if Vocabulary.landValue.occursIn lower then highLandValue
  else if Vocabulary.airRights.occursIn lower then airRights
  else if Vocabulary.historic.occursIn lower then historic (historicYear lower)
  else if Vocabulary.largeLot.occursIn lower then largeLot
  else unrecognized

/-- Whether the kind is itself a bound on the year of construction. -/
def isHistoric : Intent → Bool
  | historic _ => true
  | _ => false

end Intent

inductive Comparison where
  | atLeast
  | atMost
  | lessThan
  | moreThan
deriving Repr, DecidableEq

namespace Comparison

def ofWords (words : Text) : Comparison :=
  match String.ofList words with
  | "at least" => atLeast
  | "at most" => atMost
  | "under" | "less than" | "smaller than" | "below" => lessThan
  | _ => moreThan

/-- The comparison in a statement. -/
def symbol : Comparison → String
  | atLeast => ">="
  | atMost => "<="
  | lessThan => "<"
  | moreThan => ">"

/-- The comparison in an explanation. -/
def words : Comparison → String
  | atLeast => "at least"
  | atMost => "at most"
  | lessThan => "under"
  | moreThan => "over"

end Comparison

structure Threshold where
  comparison : Comparison
  amount : Amount
deriving Repr, DecidableEq

inductive YearBound where
  | newerThan (year : Nat)
  | olderThan (year : Nat)
deriving Repr, DecidableEq

/-- What a request asks for. -/
structure Search where
  intent : Intent
  borough : Option Borough
  /-- The zoning district in capitals. -/
  district : Option Text
  lotArea : Option Threshold
  assessedValue : Option Threshold
  yearBuilt : Option YearBound
  opportunityZone : Bool
  limit : Int
deriving Repr, DecidableEq

namespace Search

/-- The borough that is mentioned by a name in small letters, or else by its code in the text as
it was written. -/
def boroughOf (request lower : Text) : Option Borough :=
  let named (p : Pattern) (t : Text) : Option Borough :=
    (p.find t).bind fun f => Borough.named? (t.drop f.start |>.take (f.finish.position - f.start))
  match named Vocabulary.boroughName lower with
  | some b => some b
  | none => named Vocabulary.boroughCode request

def districtOf (lower : Text) : Option Text :=
  ((Vocabulary.district.find lower).bind fun f => f.groupText? 1).map fun t =>
    t.map Text.upperChar

def lotAreaOf (lower : Text) : Option Threshold := do
  let fit ← Vocabulary.lotSize.find lower
  let words ← fit.groupText? 1
  let value ← Amount.read? (← fit.groupText? 2)
  return ⟨Comparison.ofWords words, Amount.inUnit (fit.groupText? 3) value⟩

/-- Whether an amount is money: it has a dollar sign or a multiplier, and no area follows. -/
def isMoney (fit : Fit) : Bool :=
  ((fit.group? 2).isSome || (fit.group? 4).isSome)
    && (Vocabulary.areaAfterAmount.fitAt none 0 fit.finish.rest).isNone

/-- The bound on the assessed value, from the first amount that is money.  Without a comparison
the amount is an upper bound. -/
def assessedValueOf (lower : Text) : Option Threshold := do
  let fit ← (Vocabulary.money.findAll lower).find? isMoney
  let value ← Amount.read? (← fit.groupText? 3)
  return ⟨((fit.groupText? 1).map Comparison.ofWords).getD .lessThan,
    Amount.inUnit (fit.groupText? 4) value⟩

/-- The bound on the year of construction, unless the kind of property already is one. -/
def yearBuiltOf (intent : Intent) (lower : Text) : Option YearBound := do
  let fit ← Vocabulary.yearBuilt.find lower
  let words ← fit.groupText? 1
  let year ← Intent.year? (← fit.groupText? 2)
  if (Vocabulary.newerPhrases.map String.toList).contains words then return .newerThan year
  else if intent.isHistoric then none
  else return .olderThan year

/-- The number of results asked for, at most the row ceiling. -/
def limitOf (lower : Text) : Int :=
  match ((Vocabulary.resultCount.find lower).bind fun f => f.groupText? 1).bind Text.natural? with
  | some n => if n = 0 then Statement.rowCeiling else min n Statement.rowCeiling
  | none => Statement.rowCeiling

/-- What a request asks for, given its lower-case form as well. -/
def ofRequest (request lower : Text) : Search :=
  let intent := Intent.ofLower lower
  { intent
    borough := boroughOf request lower
    district := districtOf lower
    lotArea := lotAreaOf lower
    assessedValue := assessedValueOf lower
    yearBuilt := yearBuiltOf intent lower
    opportunityZone := Vocabulary.opportunityZone.occursIn lower
    limit := limitOf lower }

end Search

end LotSearch

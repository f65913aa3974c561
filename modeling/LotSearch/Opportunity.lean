import LotSearch.Fault
import LotSearch.Lots.Table
import LotSearch.Statement.Gate

/-!
# Opportunity types

An operator describes a kind of opportunity by a name and a condition on lots.  The condition is
trusted text; a borough is added by its code only, and the name decides by which value the lots
are ordered.
-/

namespace LotSearch

structure OpportunityType where
  id : Text
  name : Text
  description : Option Text
  criteria : Text
deriving Repr, DecidableEq

namespace OpportunityType

/-- The words in a name that stand for lots built below their allowance. -/
def underbuiltWords : List Text :=
  ["underbuilt".toList, "under-built".toList, "underdeveloped".toList, "under-developed".toList]

/-- The column or metric by which the lots of an opportunity are ordered. -/
def sortColumn (name : Text) : String :=
  let name := Text.lower name
  if Text.occursIn "vacant".toList name then "lotarea"
  else if underbuiltWords.any (Text.occursIn · name) then "development_potential"
  else if Text.occursIn "value".toList name then "value_ratio"
  else "assesstot"

/-- The borough that an optional region names.  A blank region stands for all boroughs. -/
def region (name : Option Text) : Except Fault (Option Borough) :=
  match (name.map Text.trim).filter fun t => !t.isEmpty with
  | none => .ok none
  | some t =>
      match Borough.named? t with
      | some b => .ok (some b)
      | none => .error (.invalidRequest ("unknown borough '".toList ++ t ++ ['\'']))

def boroughCondition (b : Borough) : Text := "borough = '".toList ++ b.code.toList ++ ['\'']

def statement (o : OpportunityType) (borough : Option Borough) : Text :=
  Lots.baseSelect ++ " WHERE (".toList ++ Text.trim o.criteria ++ [')']
    ++ (match borough with
        | some b => " AND ".toList ++ boroughCondition b
        | none => [])
    ++ " ORDER BY ".toList ++ (sortColumn o.name).toList ++ " DESC NULLS LAST LIMIT ".toList
    ++ Text.ofInt Statement.rowCeiling

def toJson (o : OpportunityType) : Json :=
  .object (Json.Fields.ofList
    [("id".toList, .text o.id), ("name".toList, .text o.name),
      ("description".toList, (o.description.map Json.text).getD .null),
      ("criteria".toList, .text o.criteria)])

end OpportunityType

end LotSearch

import LotSearch.Text.Blank
import LotSearch.Text.Case

/-!
# Boroughs

The five boroughs of the city, with the code under which their lots are stored, their name, the
beginning of their census tract numbers, and the phrases that refer to them in free text.
-/

namespace LotSearch

inductive Borough where
  | manhattan
  | bronx
  | brooklyn
  | queens
  | statenIsland
deriving Repr, DecidableEq

namespace Borough

/-- All boroughs in their usual order. -/
def all : List Borough := [manhattan, bronx, brooklyn, queens, statenIsland]

/-- The two letters that lots of the borough are stored with. -/
def code : Borough → String
  | manhattan => "MN"
  | bronx => "BX"
  | brooklyn => "BK"
  | queens => "QN"
  | statenIsland => "SI"

def title : Borough → String
  | manhattan => "Manhattan"
  | bronx => "Bronx"
  | brooklyn => "Brooklyn"
  | queens => "Queens"
  | statenIsland => "Staten Island"

/-- The five digits of state and county with which the borough's census tracts begin. -/
def countyFips : Borough → String
  | manhattan => "36061"
  | bronx => "36005"
  | brooklyn => "36047"
  | queens => "36081"
  | statenIsland => "36085"

/-- The phrases, in small letters, that refer to the borough. -/
def synonyms : Borough → List String
  | manhattan => ["manhattan", "new york county"]
  | bronx => ["the bronx", "bronx county", "bronx"]
  | brooklyn => ["brooklyn", "kings county"]
  | queens => ["queens county", "queens"]
  | statenIsland => ["staten island", "richmond county"]

/-- Everything a borough is called: its code, its name and its synonyms. -/
def names (b : Borough) : List Text := (b.code :: b.title :: b.synonyms).map String.toList

/-- The borough that a text names, up to ASCII case and surrounding blanks. -/
def named? (t : Text) : Option Borough :=
  all.find? fun b => b.names.any (Text.sameAscii (Text.trim t))

end Borough

end LotSearch

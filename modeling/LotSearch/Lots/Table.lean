import LotSearch.Lots.Borough

/-!
# The table of lots

Every statement reads one table.  Its columns, the metrics derived from them and the common
beginning of all generated queries are described here.
-/

namespace LotSearch

namespace Lots

inductive ColumnKind where
  | numeric
  | text
  | categorical
  | boolean
  | year
deriving Repr, DecidableEq

def ColumnKind.label : ColumnKind → String
  | numeric => "numeric"
  | text => "text"
  | categorical => "categorical"
  | boolean => "boolean"
  | year => "year"

structure Column where
  name : String
  kind : ColumnKind
  meaning : String
deriving Repr, DecidableEq

structure Metric where
  name : String
  sql : String
  meaning : String
deriving Repr, DecidableEq

def table : String := "properties"

/-- The largest floor-area ratio that the zoning allows for a lot. -/
def maxFar : String := "GREATEST(residfar, commfar, facilfar)"

/-- The floor area that may still be built. -/
def developmentPotential : String :=
  "(GREATEST(residfar, commfar, facilfar) - COALESCE(builtfar, 0)) * lotarea"

/-- The share of the land in the assessed value. -/
def valueRatio : String := "assessland::numeric / NULLIF(assesstot, 0)"

/-- The share of the allowed density that is built. -/
def zoningEfficiency : String :=
  "builtfar / NULLIF(GREATEST(residfar, commfar, facilfar), 0)"

def columns : List Column :=
  [⟨"bbl", .text, "borough-block-lot identifier, unique per parcel"⟩,
   ⟨"borough", .categorical, "two-letter borough code (MN, BX, BK, QN, SI)"⟩,
   ⟨"block", .numeric, "tax block number"⟩,
   ⟨"lot", .numeric, "tax lot number"⟩,
   ⟨"address", .text, "street address"⟩,
   ⟨"zipcode", .text, "postal code"⟩,
   ⟨"zonedist1", .categorical, "primary zoning district, e.g. R6, C4-2, M1-1"⟩,
   ⟨"zonedist2", .categorical, "secondary zoning district"⟩,
   ⟨"zonedist3", .categorical, "third zoning district"⟩,
   ⟨"zonedist4", .categorical, "fourth zoning district"⟩,
   ⟨"bldgclass", .categorical,
    "building class code; first letter is the class family (A one-family, C/D multi-family, " ++
      "K retail, O office, S mixed use, V vacant)"⟩,
   ⟨"landuse", .categorical,
    "land use category code as text ('04' mixed residential/commercial, '11' vacant land)"⟩,
   ⟨"limited_height_district", .categorical, "limited height district, NULL when none applies"⟩,
   ⟨"ownertype", .categorical,
    "owner type code ('C' city, 'P' private, 'X' tax exempt, 'O' other public)"⟩,
   ⟨"ownernames", .text, "owner names (text array)"⟩,
   ⟨"lotarea", .numeric, "lot area in square feet"⟩,
   ⟨"lotfront", .numeric, "lot frontage in feet"⟩,
   ⟨"lotdepth", .numeric, "lot depth in feet"⟩,
   ⟨"bldgarea", .numeric, "total building floor area in square feet"⟩,
   ⟨"comarea", .numeric, "commercial floor area in square feet"⟩,
   ⟨"resarea", .numeric, "residential floor area in square feet"⟩,
   ⟨"officearea", .numeric, "office floor area in square feet"⟩,
   ⟨"retailarea", .numeric, "retail floor area in square feet"⟩,
   ⟨"numbldgs", .numeric, "number of buildings on the lot"⟩,
   ⟨"numfloors", .numeric, "number of floors of the tallest building"⟩,
   ⟨"unitsres", .numeric, "residential units"⟩,
   ⟨"unitstotal", .numeric, "total units"⟩,
   ⟨"yearbuilt", .year, "year construction completed; 0 when unknown"⟩,
   ⟨"builtfar", .numeric, "built floor-area ratio (built density); may be NULL"⟩,
   ⟨"residfar", .numeric, "maximum allowed residential floor-area ratio"⟩,
   ⟨"commfar", .numeric, "maximum allowed commercial floor-area ratio"⟩,
   ⟨"facilfar", .numeric, "maximum allowed community facility floor-area ratio"⟩,
   ⟨"assessland", .numeric, "assessed land value in dollars"⟩,
   ⟨"assesstot", .numeric, "total assessed value in dollars"⟩,
   ⟨"exempttot", .numeric, "total exempt value in dollars"⟩,
   ⟨"built_status", .categorical, "construction status; 'vacant' for unbuilt lots"⟩,
   ⟨"is_vacant", .boolean, "true when the building class starts with V or land use is '11'"⟩,
   ⟨"landmark", .text, "landmark name, NULL when not a landmark"⟩,
   ⟨"historic_district", .text, "historic district name, NULL when outside one"⟩,
   ⟨"bct2020", .text, "2020 census tract: borough digit plus six-digit tract (7 characters)"⟩,
   ⟨"bctcb2020", .text,
    "2020 census block: borough digit, tract and four-digit block (11 characters)"⟩,
   ⟨"ct2010", .text, "2010 census tract"⟩,
   ⟨"cb2010", .text, "2010 census block"⟩,
   ⟨"is_opportunity_zone", .boolean,
    "true when the lot's census tract is a designated federal Opportunity Zone"⟩,
   ⟨"latitude", .numeric, "latitude (WGS84)"⟩,
   ⟨"longitude", .numeric, "longitude (WGS84)"⟩]

def metrics : List Metric :=
  [⟨"development_potential", developmentPotential,
    "unused buildable floor area in square feet"⟩,
   ⟨"value_ratio", valueRatio,
    "share of the assessment attributed to land; high values suggest an underused improvement"⟩,
   ⟨"zoning_efficiency", zoningEfficiency,
    "fraction of the allowed density that is already built"⟩]

def column? (name : Text) : Option Column := columns.find? fun c => c.name.toList == name

/-- The names of the columns, separated by commas. -/
def columnList : Text := Text.join ", ".toList (columns.map fun c => c.name.toList)

/-- The derived metrics under their names, separated by commas. -/
def metricList : Text :=
  Text.join ", ".toList (metrics.map fun m => m.sql.toList ++ " AS ".toList ++ m.name.toList)

/-- The query for all columns and derived metrics of all lots.  Columns are listed by name, since
the table may already hold columns named like the metrics. -/
def baseSelect : Text :=
  "SELECT ".toList ++ columnList ++ ", ".toList ++ metricList ++ " FROM ".toList ++ table.toList

/-- One line for each column. -/
def describeColumns : Text :=
  Text.join ['\n'] (columns.map fun c =>
    "- ".toList ++ c.name.toList ++ " (".toList ++ c.kind.label.toList ++ "): ".toList
      ++ c.meaning.toList)

/-- One line for each derived metric. -/
def describeMetrics : Text :=
  Text.join ['\n'] (metrics.map fun m =>
    "- ".toList ++ m.name.toList ++ " = ".toList ++ m.sql.toList ++ " -- ".toList
      ++ m.meaning.toList)

/-- One line for each borough. -/
def describeBoroughs : Text :=
  Text.join ['\n'] (Borough.all.map fun b =>
    "- ".toList ++ b.title.toList ++ " => '".toList ++ b.code.toList
      ++ "' (census tract GEOIDs start with ".toList ++ b.countyFips.toList ++ [')'])

end Lots

end LotSearch

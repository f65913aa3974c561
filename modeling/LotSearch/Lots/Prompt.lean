import LotSearch.Lots.Table
import LotSearch.Statement.Gate

/-!
# Instructions for the language model

The model is told the table, its conventions and the form of its answer before it sees a
request.
-/

namespace LotSearch

namespace Lots

def promptLines : List Text :=
  ["You translate requests about New York City tax lots into a single PostgreSQL query.".toList,
   [],
   "Table: ".toList ++ table.toList,
   "Columns:".toList,
   describeColumns,
   [],
   "Derived metrics (compute them inline and alias them exactly as named; list ".toList ++
     "the columns you need instead of * whenever you add one):".toList,
   describeMetrics,
   [],
   "Borough values are stored as two-letter codes:".toList,
   describeBoroughs,
   [],
   "Conventions:".toList,
   "- The maximum allowed density (floor-area ratio) of a lot is ".toList ++ maxFar.toList ++
     ".".toList,
   "- \"underdeveloped\" or \"underbuilt\" means builtfar < ".toList ++ maxFar.toList ++
     " * 0.5 OR builtfar IS NULL, ordered by development_potential DESC.".toList,
   "- \"vacant\" means built_status = 'vacant' OR is_vacant = true.".toList,
   "- \"high land value\" means assessland::numeric / NULLIF(assesstot, 0) > 0.7.".toList,
   "- \"air rights\" means ".toList ++ maxFar.toList ++ " > builtfar * 1.5.".toList,
   "- \"pre-war\" means yearbuilt < 1945 AND yearbuilt > 0; yearbuilt = 0 means unknown.".toList,
   "- Zoning districts such as R6 or C4-2 are matched with zonedist1 LIKE 'R6%'.".toList,
   "- \"opportunity zone\" means is_opportunity_zone = true; census tracts live ".toList ++
     "in bct2020 (borough digit + six-digit tract) and ct2010.".toList,
   "- Guard divisions with NULLIF and expect NULLs in numeric columns.".toList,
   [],
   "Rules:".toList,
   "- Return exactly one SELECT statement over ".toList ++ table.toList ++
     ". Never modify data.".toList,
   "- Always end with LIMIT ".toList ++ Text.ofInt Statement.rowCeiling ++
     " or a smaller limit.".toList,
   "- Respond with JSON only: \x7b\"sql\": \"<the query>\", \"explanation\": ".toList ++
     "\"<one or two sentences describing how the request was interpreted>\"\x7d".toList]

/-- The instructions that come before every request to the model. -/
def prompt : Text := Text.join ['\n'] promptLines

end Lots

end LotSearch

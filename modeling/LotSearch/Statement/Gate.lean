import LotSearch.Fault
import LotSearch.Statement.LimitClause

/-!
# The gate before execution

Only a statement that begins with the word `SELECT` passes, and it leaves the gate with a row
bound: its own one when that is low enough, else the greatest bound allowed.  The bound is kept
once more around the statement when its rows are asked for as JSON.
-/

namespace LotSearch.Statement

/-- No statement may bring more rows than this. -/
def rowCeiling : Int := 100

/-- A number moved into the range from one to the row ceiling. -/
def clampRows (n : Int) : Int := max 1 (min n rowCeiling)

/-- Whether the first six characters behind blanks are the word `select` in any case. -/
def startsWithSelect (sql : Text) : Bool :=
  Text.asciiLower ((Text.trimStart sql).take 6) == "select".toList

/-- A statement with a bound of at most `rows` rows. -/
def bound (statement : Text) (rows : Int) : Text :=
  match splitLimit? statement with
  | none => statement ++ " LIMIT ".toList ++ Text.ofInt rows
  | some (before, clause) =>
      if clause.rows?.any (· ≤ rows) then statement
      else before ++ "LIMIT ".toList ++ Text.ofInt rows ++ clause.offset

/-- The statement as it is executed, or the refusal of a text that is not a query. -/
def gate (sql : Text) (maxRows : Int) : Except Fault Text :=
  let statement := body sql
  if startsWithSelect statement then .ok (bound statement (clampRows maxRows))
  else .error (.notSelect (Text.trim sql))

/-- A query that returns each row of a statement as one JSON column. -/
def asJson (sql : Text) (maxRows : Int) : Text :=
  let inner := Text.trimEnd (Text.dropEndWhile (· == ';') (Text.trim sql))
  "SELECT to_jsonb(q) AS result FROM (".toList ++ inner ++ ") AS q LIMIT ".toList
    ++ Text.ofInt maxRows

end LotSearch.Statement

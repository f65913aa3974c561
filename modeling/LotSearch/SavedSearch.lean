import LotSearch.Fault
import LotSearch.Json.Value
import LotSearch.Page

/-!
# Saved searches

Every successful search is kept in a log together with its caller.  A log holds its records in
the order in which they were added; a listing shows those of one caller, the newest first.
-/

namespace LotSearch

inductive QueryKind where
  | naturalLanguage
  | template
  | opportunity
deriving Repr, DecidableEq

def QueryKind.name : QueryKind → String
  | naturalLanguage => "natural_language"
  | template => "template"
  | opportunity => "opportunity"

structure SavedSearch where
  callerId : Option Text
  displayName : Text
  kind : QueryKind
  rawText : Option Text
  sql : Option Text
  parameters : Option Json.Fields
  resultCount : Nat
deriving Repr, BEq

namespace SavedSearch

def fields (s : SavedSearch) : List (Text × Json) :=
  let optional (v : Option Text) : Json := (v.map Json.text).getD .null
  [("caller_id".toList, optional s.callerId), ("display_name".toList, .text s.displayName),
    ("query_kind".toList, .text s.kind.name.toList), ("raw_text".toList, optional s.rawText),
    ("generated_sql".toList, optional s.sql),
    ("parameters".toList, (s.parameters.map Json.object).getD .null),
    ("result_count".toList, .number (.whole s.resultCount))]

def toJson (s : SavedSearch) : Json := .object (Json.Fields.ofList s.fields)

end SavedSearch

/-- A record with its number in the log, counted from one. -/
structure LoggedSearch where
  number : Nat
  search : SavedSearch
deriving Repr, BEq

namespace LoggedSearch

def padded (width : Nat) (digits : Text) : Text :=
  List.replicate (width - digits.length) '0' ++ digits

/-- The number of a record as an identifier of 32 hexadecimal digits in five groups. -/
def idText (number : Nat) : Text :=
  let digits := padded 32 (Nat.toDigits 16 number)
  Text.join ['-'] [digits.take 8, (digits.drop 8).take 4, (digits.drop 12).take 4,
    (digits.drop 16).take 4, digits.drop 20]

def isLeap (year : Nat) : Bool := year % 4 == 0 && (year % 100 != 0 || year % 400 == 0)

def monthLengths (year : Nat) : List Nat :=
  [31, if isLeap year then 29 else 28, 31, 30, 31, 30, 31, 31, 30, 31, 30, 31]

/-- The month and day of a day of a year, counted from one month on. -/
def dayOfMonths : Nat → List Nat → Nat → Nat × Nat
  | month, [], day => (month, day + 1)
  | month, length :: months, day =>
      if day < length then (month, day + 1) else dayOfMonths (month + 1) months (day - length)

/-- The date of a day, counted from the beginning of a year; at most `fuel` years later. -/
def dateFrom : Nat → Nat → Nat → Nat × Nat × Nat
  | 0, year, day => (year, dayOfMonths 1 (monthLengths year) day)
  | fuel + 1, year, day =>
      let length := if isLeap year then 366 else 365
      if day < length then (year, dayOfMonths 1 (monthLengths year) day)
      else dateFrom fuel (year + 1) (day - length)

/-- The date and time of a number of seconds after the beginning of 1970. -/
def timeText (seconds : Nat) : Text :=
  let days := seconds / 86400
  let (year, month, day) := dateFrom days 1970 days
  let two (n : Nat) : Text := padded 2 (Text.ofNat n)
  padded 4 (Text.ofNat year) ++ '-' :: two month ++ '-' :: two day
    ++ 'T' :: two (seconds / 3600 % 24) ++ ':' :: two (seconds / 60 % 60)
    ++ ':' :: two (seconds % 60) ++ ['Z']

/-- A row of a listing as JSON.  A record counts as made its number of seconds after 1970. -/
def toJson (r : LoggedSearch) : Json :=
  .object (Json.Fields.ofList
    (("id".toList, .text (idText r.number)) :: ("created_at".toList, .text (timeText r.number))
      :: r.search.fields))

end LoggedSearch

/-- The records of a log in the order in which they were added. -/
abbrev SearchLog := List SavedSearch

namespace SearchLog

def numbered (log : SearchLog) : List LoggedSearch :=
  log.zipIdx.map fun (search, i) => ⟨i + 1, search⟩

/-- The records of one caller, the newest first. -/
def ofCaller (caller : Text) (log : SearchLog) : List LoggedSearch :=
  (numbered log).reverse.filter fun r => r.search.callerId == some caller

def list (log : SearchLog) (caller : Text) (offset limit : Int) : List LoggedSearch :=
  ((ofCaller caller log).drop offset.toNat).take limit.toNat

end SearchLog

structure HistoryPage where
  results : List LoggedSearch
  page : Page
deriving Repr, BEq

def HistoryPage.toJson (h : HistoryPage) : Json :=
  .object (Json.Fields.ofList
    [("results".toList, .list (h.results.map LoggedSearch.toJson)),
      ("pagination".toList, h.page.toJson)])

end LotSearch

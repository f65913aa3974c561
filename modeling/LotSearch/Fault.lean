import LotSearch.Duration
import LotSearch.Json.Value

/-!
# Faults of a request

A request fails for one of six causes.  Each cause has a message for the caller and a status;
some also carry the statement concerned and a fixed code.
-/

namespace LotSearch

/-- Why a request failed. -/
inductive Fault where
  /-- The request itself is wrong. -/
  | invalidRequest (reason : Text)
  /-- The statement is not a query. -/
  | notSelect (sql : Text)
  /-- Nothing is known under a given name. -/
  | notFound (what : Text)
  /-- The answer took longer than allowed. -/
  | timedOut (limit : Duration)
  /-- The database refused the statement. -/
  | executionFailed (reason : Text) (sql : Text)
  /-- A part of the service failed; the reason stays inside. -/
  | internal (reason : Text)
deriving Repr, DecidableEq

namespace Fault

def message : Fault → Text
  | invalidRequest reason => "invalid request: ".toList ++ reason
  | notSelect _ => "only SELECT statements may be executed".toList
  | notFound what => "not found: ".toList ++ what
  | timedOut limit => "request timed out after ".toList ++ limit.write
  | executionFailed reason _ => "query execution failed: ".toList ++ reason
  | internal _ => "internal error".toList

def status : Fault → Nat
  | invalidRequest _ => 400
  | notSelect _ => 400
  | notFound _ => 404
  | timedOut _ => 408
  | executionFailed _ _ => 500
  | internal _ => 500

def sql? : Fault → Option Text
  | notSelect sql => some sql
  | executionFailed _ sql => some sql
  | _ => none

def code? : Fault → Option Text
  | notSelect _ => some "SQL_NOT_SELECT".toList
  | executionFailed _ _ => some "EXECUTION_FAILED".toList
  | timedOut _ => some "REQUEST_TIMEOUT".toList
  | _ => none

/-- The body of the answer: the message, and the statement and code if there are any. -/
def body (f : Fault) : Json :=
  let optional (name : String) (value : Option Text) : List (Text × Json) :=
    (value.map fun t => (name.toList, Json.text t)).toList
  .object (Json.Fields.ofList
    (("error".toList, .text f.message) :: optional "sql" f.sql? ++ optional "code" f.code?))

end Fault

end LotSearch

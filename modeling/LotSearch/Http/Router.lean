import LotSearch.Http.Form
import LotSearch.Http.MediaType
import LotSearch.Http.Target
import LotSearch.Json.Record
import LotSearch.Service.Operations
import LotSearch.Service.Session

/-!
# The service over HTTP

Each operation has a path and a method.  Bodies are JSON records; a body of the wrong kind, text
that is not JSON and JSON of another shape are refused in this order.  Every answer may be read
by pages of any origin, and a preflight request is answered on every path.  An answer to a method
that an operation does not have, preflight requests included, tells its methods.
-/

namespace LotSearch

structure HttpRequest where
  method : Text
  target : Text
  contentType : Option Text
  body : Text
deriving Repr, DecidableEq

structure HttpResponse where
  status : Nat
  headers : List (String × Text)
  body : Option Json
deriving Repr, BEq

namespace HttpResponse

def contentLength (body : Option Json) : Text :=
  Text.ofNat ((body.map fun b => (Utf8.encode b.write).length).getD 0)

def json (status : Nat) (body : Json) : HttpResponse :=
  ⟨status, [("content-type", "application/json".toList), ("content-length", contentLength body)],
    some body⟩

/-- An answer without a body. -/
def empty (status : Nat) (headers : List (String × Text)) : HttpResponse :=
  ⟨status, headers ++ [("content-length", contentLength none)], none⟩

def ofFault (fault : Fault) : HttpResponse := json fault.status fault.body

def withHeaders (more : List (String × Text)) (r : HttpResponse) : HttpResponse :=
  { r with headers := r.headers ++ more }

/-- The answer without its body. -/
def withoutBody (r : HttpResponse) : HttpResponse := { r with body := none }

end HttpResponse

/-- The operations that can be reached. -/
inductive Endpoint where
  | health
  | natural
  | templates
  | byTemplate
  | opportunities
  | byOpportunity
  | history
deriving Repr, DecidableEq

namespace Endpoint

def all : List Endpoint :=
  [health, natural, templates, byTemplate, opportunities, byOpportunity, history]

def path : Endpoint → String
  | health => "/healthz"
  | natural => "/api/natural-language-query"
  | templates => "/api/templates"
  | byTemplate => "/api/templates/execute"
  | opportunities => "/api/opportunity-types"
  | byOpportunity => "/api/opportunities/find"
  | history => "/api/saved-searches"

def takesBody : Endpoint → Bool
  | natural | byTemplate | byOpportunity => true
  | _ => false

/-- The methods of an operation, as they are told to callers. -/
def allowed (e : Endpoint) : String := if e.takesBody then "POST" else "GET,HEAD"

def ofPath? (path : Text) : Option Endpoint := all.find? fun e => e.path.toList == path

end Endpoint

namespace Body

/-- The fault of a body that cannot be read. -/
def fault : ReadProblem → Fault
  | .malformed => .invalidRequest "Failed to parse the request body as JSON".toList
  | .mistyped =>
      .invalidRequest "Failed to deserialize the JSON body into the target type".toList

/-- The fault of a body that is not announced as JSON. -/
def wrongType : Fault :=
  .invalidRequest "Expected request with `Content-Type: application/json`".toList

def slot (name : String) (type : Json.SlotType) : Json.Slot := ⟨[name.toList], type⟩

/-- The optional text in a slot. -/
def text? (v : Option Json) : Option Text := v.bind Json.text?

def naturalSlots : List Json.Slot := [slot "query" .text, slot "userId" .optionalText]

def natural (t : Text) : Reading NaturalQuery := do
  match ← Json.readRecord naturalSlots t with
  | ([some (.text query), userId], _) => return ⟨query, text? userId⟩
  | _ => .error .mistyped

def templateSlots : List Json.Slot :=
  [slot "templateId" .text, slot "parameters" .object, slot "userId" .optionalText]

def template (t : Text) : Reading TemplateQuery := do
  match ← Json.readRecord templateSlots t with
  | ([some (.text id), parameters, userId], _) =>
      return ⟨id, (parameters.bind Json.object?).getD [], text? userId⟩
  | _ => .error .mistyped

def opportunitySlots : List Json.Slot :=
  [slot "opportunityTypeId" .text, ⟨["borough".toList, "region".toList], .optionalText⟩,
    slot "userId" .optionalText]

def opportunity (t : Text) : Reading OpportunityQuery := do
  match ← Json.readRecord opportunitySlots t with
  | ([some (.text id), borough, userId], _) => return ⟨id, text? borough, text? userId⟩
  | _ => .error .mistyped

def read {α : Type} (reader : Text → Reading α) (r : HttpRequest) : Except Fault α :=
  if r.contentType.any MediaType.announcesJson then
    match reader r.body with
    | .ok a => .ok a
    | .error problem => .error (fault problem)
  else .error wrongType

end Body

structure HistoryQuery where
  userId : Option Text
  cursor : Option Text
  limit : Option Int
deriving Repr, DecidableEq

/-- The query of a listing of saved searches; unknown names are passed over. -/
def HistoryQuery.ofQuery? (query : Text) : Option HistoryQuery := do
  let form := Form.parse query
  let userId ← Form.single "userId".toList form
  let cursor ← Form.single "cursor".toList form
  let limit ← Form.single "limit".toList form
  match limit with
  | none => return ⟨userId, cursor, none⟩
  | some limit =>
      let limit ← Text.integerWithin? minInt64 maxInt64 limit
      return ⟨userId, cursor, some limit⟩

namespace Router

def results (items : List Json) : Json := .object [("results".toList, .list items)]

/-- The plan of an operation, given a request and its query string. -/
def operate (maxRows : Int) (query : Text) (r : HttpRequest) : Endpoint → Plan Json
  | .health => pure (.object [("status".toList, .text "ok".toList)])
  | .natural => do
      let q ← Plan.ofExcept (Body.read Body.natural r)
      return (← Service.natural maxRows q).toJson
  | .templates => do return results ((← Service.templates).map Template.toJson)
  | .byTemplate => do
      let q ← Plan.ofExcept (Body.read Body.template r)
      return (← Service.byTemplate maxRows q).toJson
  | .opportunities => do
      return results ((← Service.opportunities).map OpportunityType.toJson)
  | .byOpportunity => do
      let q ← Plan.ofExcept (Body.read Body.opportunity r)
      return (← Service.byOpportunity maxRows q).toJson
  | .history => do
      match HistoryQuery.ofQuery? query with
      | some q => return (← Service.history (q.userId.getD []) q.cursor q.limit).toJson
      | none => .finish (.error (.invalidRequest "Failed to deserialize query string".toList))

/-- The headers by which pages of any origin may read an answer. -/
def openHeaders : List (String × Text) :=
  [("access-control-allow-origin", ['*']),
    ("vary", "origin, access-control-request-method, access-control-request-headers".toList)]

def allow (e : Endpoint) : String × Text := ("allow", e.allowed.toList)

/-- The answer to a preflight request for what is found at its path. -/
def preflight (e : Option Endpoint) : HttpResponse :=
  HttpResponse.empty 200
    (openHeaders ++ [("access-control-allow-methods", ['*']),
      ("access-control-allow-headers", ['*'])] ++ (e.map allow).toList)

/-- The settings that matter to requests. -/
structure Limits where
  maxRows : Int
  timeout : Duration
deriving Repr, DecidableEq

/-- The answer to a request for an operation that is not a preflight request, without the headers
that all such answers have; the state after it and what happened. -/
def respond (around : Surroundings) (limits : Limits) (query : Text) (r : HttpRequest)
    (s : SessionState) : Option Endpoint → HttpResponse × SessionState × List Event
  | none => (HttpResponse.empty 404 [], s, [])
  | some e =>
      let isHead := r.method == "HEAD".toList
      let fits := if e.takesBody then r.method == "POST".toList
        else isHead || r.method == "GET".toList
      if fits then
        let course := (operate limits.maxRows query r e).perform around limits.timeout 0 s
        let response :=
          match course.result with
          | .ok body => HttpResponse.json 200 body
          | .error fault => HttpResponse.ofFault fault
        (if isHead then response.withoutBody else response, course.state, course.events)
      else (HttpResponse.empty 405 [allow e], s, [])

/-- The answer to a request, the state after it and what happened. -/
def serve (around : Surroundings) (limits : Limits) (r : HttpRequest) (s : SessionState) :
    HttpResponse × SessionState × List Event :=
  let target := Target.read r.target
  let endpoint := Endpoint.ofPath? target.path
  if r.method == "OPTIONS".toList then (preflight endpoint, s, [])
  else
    let (response, s, events) := respond around limits target.query r s endpoint
    (response.withHeaders (openHeaders ++ [("access-control-expose-headers", ['*'])]), s, events)

/-- The answers to requests one after another, each with what happened. -/
def serveAll (around : Surroundings) (limits : Limits) :
    List HttpRequest → SessionState → List (HttpResponse × List Event)
  | [], _ => []
  | r :: requests, s =>
      let (response, s, events) := serve around limits r s
      (response, events) :: serveAll around limits requests s

end Router

end LotSearch

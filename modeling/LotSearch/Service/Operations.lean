import LotSearch.Lots.Prompt
import LotSearch.Reply
import LotSearch.Request.Understood
import LotSearch.Service.Plan

/-!
# The operations of the service

Three operations search for lots: by a request in free text, by a template, and by an
opportunity type.  Each builds a statement, sends it through the gate, executes it and adds a
record to the log; a record that cannot be added does not matter to the caller.  The remaining
operations list what is known.
-/

namespace LotSearch

structure NaturalQuery where
  query : Text
  userId : Option Text
deriving Repr, DecidableEq

structure TemplateQuery where
  templateId : Text
  parameters : Json.Fields
  userId : Option Text
deriving Repr, BEq

/-- A request for lots of an opportunity type, perhaps in one borough. -/
structure OpportunityQuery where
  opportunityTypeId : Text
  borough : Option Text
  userId : Option Text
deriving Repr, DecidableEq

structure NaturalAnswer where
  results : List Json
  explanation : Text
  sql : Text
  source : Source
deriving Repr, BEq

structure TemplateAnswer where
  results : List Json
  sql : Text
  template : Template
deriving Repr, BEq

structure OpportunityAnswer where
  results : List Json
  sql : Text
  opportunity : OpportunityType
  borough : Option Borough
deriving Repr, BEq

def searchFields (results : List Json) (sql : Text) : List (Text × Json) :=
  [("results".toList, .list results), ("count".toList, .number (.whole results.length)),
    ("sql".toList, .text sql)]

def NaturalAnswer.toJson (a : NaturalAnswer) : Json :=
  .object (Json.Fields.ofList (searchFields a.results a.sql ++
    [("explanation".toList, .text a.explanation), ("source".toList, .text a.source.name.toList)]))

def TemplateAnswer.toJson (a : TemplateAnswer) : Json :=
  .object (Json.Fields.ofList (searchFields a.results a.sql ++
    [("template".toList, a.template.toJson)]))

def OpportunityAnswer.toJson (a : OpportunityAnswer) : Json :=
  .object (Json.Fields.ofList (searchFields a.results a.sql ++
    ("opportunity".toList, a.opportunity.toJson) ::
      (a.borough.map fun b => ("borough".toList, Json.text b.code.toList)).toList))

namespace Service

/-- The statement for a request: that of the model's reply, or that of the rules when the model
fails or its reply holds no statement. -/
def understand (reply : Except ModelFailure Text) (request : Text) : Understood :=
  match reply.toOption.bind Reply.read? with
  | some reply => ⟨reply.sql, reply.explanation, .model⟩
  | none => Understood.byRules request

def interpret (request : Text) : Plan Understood :=
  .ask Lots.prompt request fun reply => pure (understand reply request)

def execute (sql : Text) : Plan (List Json) :=
  .execute sql fun
    | .ok rows => pure rows
    | .error reason => .finish (.error (.executionFailed reason sql))

/-- Adds a record to the log; a failure is passed over. -/
def record (search : SavedSearch) : Plan Unit := .append search fun _ => pure ()

/-- The greatest number of characters of a request in the list of saved searches. -/
def displayLength : Nat := 80

/-- The name under which a request is listed. -/
def displayName (request : Text) : Text :=
  if displayLength < request.length then request.take displayLength ++ "...".toList else request

def natural (maxRows : Int) (q : NaturalQuery) : Plan NaturalAnswer := do
  let request := Text.trim q.query
  if request.isEmpty then
    .finish (.error (.invalidRequest "query must not be empty".toList))
  else
    let understood ← interpret request
    let sql ← Plan.ofExcept (Statement.gate understood.sql maxRows)
    let results ← execute sql
    record {
      callerId := q.userId
      displayName := displayName request
      kind := .naturalLanguage
      rawText := some request
      sql := some sql
      parameters := none
      resultCount := results.length }
    return ⟨results, understood.explanation, sql, understood.source⟩

/-- The fault of a request for something unknown. -/
def unknown (kind : String) (id : Text) : Fault :=
  .notFound (kind.toList ++ " '".toList ++ id ++ ['\''])

def template (id : Text) : Plan Template :=
  .findTemplate id fun answer => do
    match ← Plan.orInternal answer with
    | some t => return t
    | none => .finish (.error (unknown "template" id))

def opportunity (id : Text) : Plan OpportunityType :=
  .findOpportunity id fun answer => do
    match ← Plan.orInternal answer with
    | some o => return o
    | none => .finish (.error (unknown "opportunity type" id))

def byTemplate (maxRows : Int) (q : TemplateQuery) : Plan TemplateAnswer := do
  let template ← template q.templateId
  let resolved ← Plan.ofExcept (template.resolve q.parameters)
  let sql ← Plan.ofExcept (Statement.gate resolved.sql maxRows)
  let results ← execute sql
  record {
    callerId := q.userId
    displayName := template.name
    kind := .template
    rawText := none
    sql := some sql
    parameters := some resolved.parameters
    resultCount := results.length }
  return ⟨results, sql, template⟩

def opportunityName (o : OpportunityType) : Option Borough → Text
  | some b => o.name ++ " in ".toList ++ b.title.toList
  | none => o.name

def byOpportunity (maxRows : Int) (q : OpportunityQuery) : Plan OpportunityAnswer := do
  let borough ← Plan.ofExcept (OpportunityType.region q.borough)
  let o ← opportunity q.opportunityTypeId
  let sql ← Plan.ofExcept (Statement.gate (o.statement borough) maxRows)
  let results ← execute sql
  record {
    callerId := q.userId
    displayName := opportunityName o borough
    kind := .opportunity
    rawText := none
    sql := some sql
    parameters := borough.map fun b => [("borough".toList, .text b.code.toList)]
    resultCount := results.length }
  return ⟨results, sql, o, borough⟩

def templates : Plan (List Template) := .listTemplates Plan.orInternal

def opportunities : Plan (List OpportunityType) := .listOpportunities Plan.orInternal

/-- The number of saved searches on a page when none is asked for. -/
def defaultPageSize : Int := 20

def history (caller : Text) (cursor : Option Text) (limit : Option Int) : Plan HistoryPage := do
  let caller := Text.trim caller
  if caller.isEmpty then
    .finish (.error (.invalidRequest "userId is required".toList))
  else
    let limit := Statement.clampRows (limit.getD defaultPageSize)
    let offset ← match cursor with
      | some cursor => Plan.ofExcept (Page.decodeCursor cursor)
      | none => pure 0
    .listSearches caller offset limit fun answer => do
      let results ← Plan.orInternal answer
      return ⟨results, Page.ofFetched offset limit results.length⟩

end Service

end LotSearch

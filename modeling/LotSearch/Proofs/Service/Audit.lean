import LotSearch.Proofs.Service.Search
import LotSearch.Service.Script
import Mathlib

/-!
# The audit trail of searches

Whatever the parts around the service answer and in whatever order requests come, the log tells
what was executed: a search is recorded exactly when it succeeds, under its own kind and caller,
with the statement that was executed and the number of rows that were returned.
-/

namespace LotSearch

/-- A request to one of the operations that search for lots. -/
inductive SearchRequest where
  | natural (q : NaturalQuery)
  | template (q : TemplateQuery)
  | opportunity (q : OpportunityQuery)

inductive SearchAnswer where
  | natural (a : NaturalAnswer)
  | template (a : TemplateAnswer)
  | opportunity (a : OpportunityAnswer)

namespace SearchAnswer

def toJson : SearchAnswer → Json
  | natural a => a.toJson
  | template a => a.toJson
  | opportunity a => a.toJson

/-- A value of the answer by its name. -/
def field? (name : String) (a : SearchAnswer) : Option Json :=
  a.toJson.object?.bind (Json.Fields.get? name.toList)

end SearchAnswer

namespace SearchRequest

def kind : SearchRequest → QueryKind
  | natural _ => .naturalLanguage
  | template _ => .template
  | opportunity _ => .opportunity

def userId : SearchRequest → Option Text
  | natural q => q.userId
  | template q => q.userId
  | opportunity q => q.userId

variable (around : Surroundings) (maxRows : Int) (limit : Duration) (s : SessionState)

/-- The statement that is translated, resolved or built for a request, given what the parts around
the service answer next. -/
def Builds : SearchRequest → Text → Prop
  | natural q, x =>
      x = (Service.understand (around.model s.modelCalls).outcome (Text.trim q.query)).sql
  | template q, x =>
      ∃ t resolved, (around.findTemplate s.catalogCalls q.templateId).outcome = .ok (some t) ∧
        t.resolve q.parameters = .ok resolved ∧ x = resolved.sql
  | opportunity q, x =>
      ∃ borough o, OpportunityType.region q.borough = .ok borough ∧
        (around.findOpportunity s.catalogCalls q.opportunityTypeId).outcome = .ok (some o) ∧
        x = o.statement borough

/-- The milliseconds that a request waits before its statement is built. -/
def waitBefore : SearchRequest → Nat
  | natural _ => (around.model s.modelCalls).wait
  | template q => (around.findTemplate s.catalogCalls q.templateId).wait
  | opportunity q => (around.findOpportunity s.catalogCalls q.opportunityTypeId).wait

/-- The executor returns rows before the deadline of a request. -/
def AnsweredInTime (r : SearchRequest) (rows : List Json) : Prop :=
  (around.executor s.executions).outcome = .ok rows ∧
    r.waitBefore around s + (around.executor s.executions).wait ≤ limit.milliseconds

/-- What happens for a request. -/
def course : SearchRequest → Course SearchAnswer
  | natural q => ((Service.natural maxRows q).perform around limit 0 s).map .natural
  | template q => ((Service.byTemplate maxRows q).perform around limit 0 s).map .template
  | opportunity q =>
      ((Service.byOpportunity maxRows q).perform around limit 0 s).map .opportunity

end SearchRequest

/-- The record and the answer that are made of an executed statement and its rows agree. -/
structure Reports (r : SearchRequest) (sql : Text) (rows : List Json) (record : SavedSearch)
    (answer : SearchAnswer) : Prop where
  kind : record.kind = r.kind
  callerId : record.callerId = r.userId
  record_sql : record.sql = some sql
  resultCount : record.resultCount = rows.length
  answer_sql : answer.field? "sql" = some (.text sql)
  answer_count : answer.field? "count" = some (.number (.whole rows.length))
  answer_results : answer.field? "results" = some (.list rows)

/-- What the trail of a search that begins in state `s` guarantees. -/
structure Audited (around : Surroundings) (maxRows : Int) (limit : Duration) (r : SearchRequest)
    (s : SessionState) (c : Course SearchAnswer) : Prop where
  executed_length : c.executed.length ≤ 1
  gated : ∀ sql ∈ c.executed, ∃ x, r.Builds around s x ∧ Statement.gate x maxRows = .ok sql
  succeeds_iff : (∃ answer, c.result = .ok answer) ↔
    c.executed ≠ [] ∧ ∃ rows, r.AnsweredInTime around limit s rows
  reported : ∀ answer, c.result = .ok answer → ∃ sql rows record, c.executed = [sql] ∧
    r.AnsweredInTime around limit s rows ∧ c.records = [record] ∧
    Reports r sql rows record answer
  unrecorded : ∀ fault, c.result = .error fault → c.records = []
  unexecuted : ∀ fault, c.result = .error fault → fault.status = 400 ∨ fault.status = 404 →
    c.executed = []

/-- The courses of requests that are served one after another, each with its request and the state
it begins in. -/
def courses (around : Surroundings) (maxRows : Int) (limit : Duration) :
    List SearchRequest → SessionState → List (SearchRequest × SessionState × Course SearchAnswer)
  | [], _ => []
  | r :: requests, s =>
      let c := r.course around maxRows limit s
      (r, s, c) :: courses around maxRows limit requests c.state

/-! ## The values of an answer -/

/-- Values under other names do not hide a value before them. -/
theorem get?_ofList_append {named more : List (Text × Json)} {name : Text}
    (h : ∀ field ∈ more, field.1 ≠ name) :
    (Json.Fields.ofList (named ++ more)).get? name = (Json.Fields.ofList named).get? name := by
  induction more using List.reverseRecOn with
  | nil => rw [List.append_nil]
  | append_singleton more field ih =>
      obtain ⟨hmore, hfield⟩ := List.forall_mem_append.1 h
      rw [← List.append_assoc, Json.Fields.ofList_append_singleton, Json.Fields.get?_insert,
        if_neg (hfield field (by simp)).symm, ih hmore]

namespace SearchAnswer

def sql : SearchAnswer → Text
  | natural a => a.sql
  | template a => a.sql
  | opportunity a => a.sql

def results : SearchAnswer → List Json
  | natural a => a.results
  | template a => a.results
  | opportunity a => a.results

/-- Every answer tells its rows, their number and the statement first, and then what belongs to
its own operation. -/
theorem exists_details (a : SearchAnswer) : ∃ details : List (Text × Json),
    a.toJson = .object (Json.Fields.ofList (searchFields a.results a.sql ++ details)) ∧
      ∀ field ∈ details,
        field.1 ∉ ["results".toList, "count".toList, "sql".toList] := by
  cases a with
  | natural a =>
      refine ⟨_, rfl, ?_⟩
      simp
  | template a =>
      refine ⟨_, rfl, ?_⟩
      simp
  | opportunity a =>
      refine ⟨_, rfl, ?_⟩
      cases a.borough <;> simp

theorem field?_values (a : SearchAnswer) :
    a.field? "sql" = some (.text a.sql) ∧
      a.field? "count" = some (.number (.whole a.results.length)) ∧
      a.field? "results" = some (.list a.results) := by
  obtain ⟨details, hjson, hdetails⟩ := a.exists_details
  have hfield : ∀ name : String, name.toList ∈ ["results".toList, "count".toList, "sql".toList] →
      a.field? name =
        (Json.Fields.ofList (searchFields a.results a.sql)).get? name.toList := by
    intro name hname
    rw [field?, hjson]
    exact get?_ofList_append fun field hfield heq => hdetails field hfield (heq ▸ hname)
  rw [hfield "sql" (by simp), hfield "count" (by simp), hfield "results" (by simp)]
  simp [searchFields, Json.Fields.ofList, Json.Fields.get?_insert]

end SearchAnswer

theorem Reports.of_values {r : SearchRequest} {sql : Text} {rows : List Json}
    {record : SavedSearch} {answer : SearchAnswer} (hkind : record.kind = r.kind)
    (hcaller : record.callerId = r.userId) (hrecord : record.sql = some sql)
    (hcount : record.resultCount = rows.length) (hsql : answer.sql = sql)
    (hresults : answer.results = rows) : Reports r sql rows record answer := by
  obtain ⟨hfield_sql, hfield_count, hfield_results⟩ := answer.field?_values
  rw [hsql] at hfield_sql
  rw [hresults] at hfield_count hfield_results
  exact ⟨hkind, hcaller, hrecord, hcount, hfield_sql, hfield_count, hfield_results⟩

/-! ## Every search -/

namespace SearchRequest

variable {around : Surroundings} (hlog : ∀ n, (around.append n).wait = 0) (maxRows : Int)
  (limit : Duration) (s : SessionState)
include hlog

theorem ended_natural (q : NaturalQuery) :
    Ended (fun sql => ∃ x, (natural q).Builds around s x ∧ Statement.gate x maxRows = .ok sql)
      ((natural q).AnsweredInTime around limit s) (Reports (natural q))
      ((natural q).course around maxRows limit s) := by
  cases hempty : (Text.trim q.query).isEmpty with
  | true =>
      have hplan : Service.natural maxRows q =
          .finish (.error (.invalidRequest "query must not be empty".toList)) := by
        simp only [Service.natural, hempty]
        rfl
      rw [course, hplan]
      exact .refused rfl rfl rfl
  | false =>
      rw [course, Service.natural_eq maxRows hempty, Plan.perform]
      by_cases hlate : limit.milliseconds < 0 + (around.model s.modelCalls).wait
      · rw [if_pos hlate]
        exact .refused rfl rfl rfl
      · rw [if_neg hlate]
        refine Ended.map (Ended.after_asked (Service.ended_finishSearch hlog _ _ _ _ ?_)) ?_ ?_
        · intro rows
          simp [AnsweredInTime, waitBefore]
        · intro sql hsql
          exact ⟨_, rfl, hsql⟩
        · rintro sql rows _ _ ⟨rfl, rfl⟩
          exact .of_values rfl rfl rfl rfl rfl rfl

theorem ended_template (q : TemplateQuery) :
    Ended (fun sql => ∃ x, (template q).Builds around s x ∧ Statement.gate x maxRows = .ok sql)
      ((template q).AnsweredInTime around limit s) (Reports (template q))
      ((template q).course around maxRows limit s) := by
  obtain ⟨next, hplan, hfailed, hunknown, hinvalid, hresolved⟩ := Service.byTemplate_eq maxRows q
  rw [course, hplan, Plan.perform]
  by_cases hlate :
      limit.milliseconds < 0 + (around.findTemplate s.catalogCalls q.templateId).wait
  · rw [if_pos hlate]
    exact .refused rfl rfl rfl
  · rw [if_neg hlate]
    cases hfound : (around.findTemplate s.catalogCalls q.templateId).outcome with
    | error reason =>
        rw [hfailed]
        exact .refused rfl rfl rfl
    | ok found =>
        cases found with
        | none =>
            rw [hunknown]
            exact .refused rfl rfl rfl
        | some t =>
            cases hresolve : t.resolve q.parameters with
            | error fault =>
                rw [hinvalid t fault hresolve]
                exact .refused rfl rfl rfl
            | ok resolved =>
                rw [hresolved t resolved hresolve]
                refine Ended.map (Service.ended_finishSearch hlog _ _ _ _ ?_) ?_ ?_
                · intro rows
                  simp [AnsweredInTime, waitBefore]
                · intro sql hsql
                  exact ⟨_, ⟨t, resolved, hfound, hresolve, rfl⟩, hsql⟩
                · rintro sql rows _ _ ⟨rfl, rfl⟩
                  exact .of_values rfl rfl rfl rfl rfl rfl

theorem ended_opportunity (q : OpportunityQuery) :
    Ended
      (fun sql => ∃ x, (opportunity q).Builds around s x ∧ Statement.gate x maxRows = .ok sql)
      ((opportunity q).AnsweredInTime around limit s) (Reports (opportunity q))
      ((opportunity q).course around maxRows limit s) := by
  cases hregion : OpportunityType.region q.borough with
  | error fault =>
      have hplan : Service.byOpportunity maxRows q = .finish (.error fault) := by
        rw [Service.byOpportunity, hregion]
        rfl
      rw [course, hplan]
      exact .refused rfl rfl rfl
  | ok borough =>
      obtain ⟨next, hplan, hfailed, hunknown, hknown⟩ :=
        Service.byOpportunity_eq maxRows hregion
      rw [course, hplan, Plan.perform]
      by_cases hlate : limit.milliseconds <
          0 + (around.findOpportunity s.catalogCalls q.opportunityTypeId).wait
      · rw [if_pos hlate]
        exact .refused rfl rfl rfl
      · rw [if_neg hlate]
        cases hfound : (around.findOpportunity s.catalogCalls q.opportunityTypeId).outcome with
        | error reason =>
            rw [hfailed]
            exact .refused rfl rfl rfl
        | ok found =>
            cases found with
            | none =>
                rw [hunknown]
                exact .refused rfl rfl rfl
            | some o =>
                rw [hknown]
                refine Ended.map (Service.ended_finishSearch hlog _ _ _ _ ?_) ?_ ?_
                · intro rows
                  simp [AnsweredInTime, waitBefore]
                · intro sql hsql
                  exact ⟨_, ⟨borough, o, hregion, hfound, rfl⟩, hsql⟩
                · rintro sql rows _ _ ⟨rfl, rfl⟩
                  exact .of_values rfl rfl rfl rfl rfl rfl

/-- Every search ends in one of the three ways. -/
theorem ended (r : SearchRequest) :
    Ended (fun sql => ∃ x, r.Builds around s x ∧ Statement.gate x maxRows = .ok sql)
      (r.AnsweredInTime around limit s) (Reports r) (r.course around maxRows limit s) := by
  cases r with
  | natural q => exact ended_natural hlog maxRows limit s q
  | template q => exact ended_template hlog maxRows limit s q
  | opportunity q => exact ended_opportunity hlog maxRows limit s q

end SearchRequest

theorem Ended.audited {around : Surroundings} {maxRows : Int} {limit : Duration}
    {r : SearchRequest} {s : SessionState} {c : Course SearchAnswer}
    (h : Ended (fun sql => ∃ x, r.Builds around s x ∧ Statement.gate x maxRows = .ok sql)
      (r.AnsweredInTime around limit s) (Reports r) c) :
    Audited around maxRows limit r s c := by
  cases h with
  | refused hresult hexecuted hrecords =>
      exact ⟨by simp [hexecuted], by simp [hexecuted], by simp [hresult, hexecuted],
        by simp [hresult], fun _ _ => hrecords, fun _ _ _ => hexecuted⟩
  | @failed sql fault hgated hnone hresult hstatus hexecuted hrecords =>
      refine ⟨by simp [hexecuted], by simpa [hexecuted] using hgated,
        by simp [hresult, hnone], by simp [hresult], fun _ _ => hrecords, ?_⟩
      rintro fault' hfault hrefused
      obtain rfl : fault = fault' := by simpa [hresult] using hfault
      exact absurd hrefused (by simp [hstatus])
  | @done sql rows record answer hgated hanswered hreports hresult hexecuted hrecords =>
      refine ⟨by simp [hexecuted], by simpa [hexecuted] using hgated, ?_, ?_, by simp [hresult],
        by simp [hresult]⟩
      · exact ⟨fun _ => ⟨by simp [hexecuted], rows, hanswered⟩, fun _ => ⟨answer, hresult⟩⟩
      · rintro answer' hanswer
        obtain rfl : answer = answer' := by simpa [hresult] using hanswer
        exact ⟨sql, rows, record, hexecuted, hanswered, hrecords, hreports⟩

/-- In every run of searches, whatever the parts around the service answer, each request has its
course, and the trail of each course is as it should be. -/
theorem audited_courses {around : Surroundings} (hlog : ∀ n, (around.append n).wait = 0)
    (maxRows : Int) (limit : Duration) (requests : List SearchRequest) (s : SessionState) :
    (courses around maxRows limit requests s).map Prod.fst = requests ∧
      ∀ entry ∈ courses around maxRows limit requests s,
        Audited around maxRows limit entry.1 entry.2.1 entry.2.2 := by
  induction requests generalizing s with
  | nil => simp [courses]
  | cons r requests ih =>
      obtain ⟨hrequests, haudited⟩ := ih (r.course around maxRows limit s).state
      refine ⟨congrArg (r :: ·) hrequests, List.forall_mem_cons.2 ⟨?_, haudited⟩⟩
      exact (r.ended hlog maxRows limit s).audited

/-- One template without placeholders, and one row for every statement. -/
def oneRow : Script where
  templates := [("1".toList, some ⟨"1".toList, "Lots".toList, none, none, "SELECT 1".toList, []⟩)]
  executor := [Script.atOnce (.ok [.null])]

theorem audited_courses_one_row :
    (∀ n, (oneRow.surroundings.append n).wait = 0) ∧
      (∀ entry ∈ courses oneRow.surroundings 100 (Duration.ofSeconds 30)
        [.natural ⟨" ".toList, none⟩, .template ⟨"1".toList, [], some "ada".toList⟩] {},
        Audited oneRow.surroundings 100 (Duration.ofSeconds 30) entry.1 entry.2.1 entry.2.2) ∧
      (courses oneRow.surroundings 100 (Duration.ofSeconds 30)
        [.natural ⟨" ".toList, none⟩, .template ⟨"1".toList, [], some "ada".toList⟩] {}).map
          (fun entry => entry.2.2.executed) = [[], ["SELECT 1 LIMIT 100".toList]] :=
  ⟨fun _ => rfl, (audited_courses (fun _ => rfl) _ _ _ _).2, by cbv⟩

end LotSearch

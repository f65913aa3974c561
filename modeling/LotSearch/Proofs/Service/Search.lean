import LotSearch.Service.Operations
import LotSearch.Service.Session
import Mathlib

/-!
# How a search goes

The three operations that search for lots differ in how they come to a statement; from there on
they share their last steps.  A search is refused before anything is executed, or fails during
the execution, or is done: then the rows are reported to the log and to the caller alike.
-/

namespace LotSearch

/-! ## Traces -/

namespace Event

def executed? : Event → Option Text
  | executed sql => some sql
  | _ => none

/-- The record that is to be added to the log, whether or not this succeeds. -/
def record? : Event → Option SavedSearch
  | appended record _ => some record
  | _ => none

end Event

namespace Course

variable {α β : Type}

def executed (c : Course α) : List Text := c.events.filterMap Event.executed?

/-- The records that are to be added to the log in a course. -/
def records (c : Course α) : List SavedSearch := c.events.filterMap Event.record?

def map (f : α → β) (c : Course α) : Course β := ⟨c.result.map f, c.state, c.events⟩

end Course

/-! ## Ends of a search -/

/-- The ways in which a search ends.  `gated` holds of the statements that may be executed,
`answered` of the rows that the executor returns in time, and `reports` relates the statement and
the rows to the record and the answer made of them. -/
inductive Ended {α : Type} (gated : Text → Prop) (answered : List Json → Prop)
    (reports : Text → List Json → SavedSearch → α → Prop) (c : Course α) : Prop
  | refused {fault : Fault} (hresult : c.result = .error fault) (hexecuted : c.executed = [])
      (hrecords : c.records = [])
  | failed {sql : Text} {fault : Fault} (hgated : gated sql) (hnone : ∀ rows, ¬ answered rows)
      (hresult : c.result = .error fault) (hstatus : fault.status ≠ 400 ∧ fault.status ≠ 404)
      (hexecuted : c.executed = [sql]) (hrecords : c.records = [])
  | done {sql : Text} {rows : List Json} {record : SavedSearch} {answer : α} (hgated : gated sql)
      (hanswered : answered rows) (hreports : reports sql rows record answer)
      (hresult : c.result = .ok answer) (hexecuted : c.executed = [sql])
      (hrecords : c.records = [record])

namespace Ended

variable {α β : Type} {gated gated' : Text → Prop} {answered : List Json → Prop}
  {reports : Text → List Json → SavedSearch → α → Prop} {c : Course α}

/-- A course that ends with another result type and more that is said of it. -/
theorem map {reports' : Text → List Json → SavedSearch → β → Prop} {f : α → β}
    (h : Ended gated answered reports c) (hgated : ∀ sql, gated sql → gated' sql)
    (hreports : ∀ sql rows record answer, reports sql rows record answer →
      reports' sql rows record (f answer)) : Ended gated' answered reports' (c.map f) := by
  cases h with
  | refused hresult hexecuted hrecords =>
      exact .refused (by rw [Course.map, hresult]; rfl) hexecuted hrecords
  | failed hg hnone hresult hstatus hexecuted hrecords =>
      exact .failed (hgated _ hg) hnone (by rw [Course.map, hresult]; rfl) hstatus hexecuted
        hrecords
  | done hg hanswered hr hresult hexecuted hrecords =>
      exact .done (hgated _ hg) hanswered (hreports _ _ _ _ hr) (by rw [Course.map, hresult]; rfl)
        hexecuted hrecords

/-- A question to the model before a course is neither an execution nor a record. -/
theorem after_asked {system user : Text} (h : Ended gated answered reports c) :
    Ended gated answered reports (c.after (.asked system user)) := by
  cases h with
  | refused hresult hexecuted hrecords => exact .refused hresult hexecuted hrecords
  | failed hg hnone hresult hstatus hexecuted hrecords =>
      exact .failed hg hnone hresult hstatus hexecuted hrecords
  | done hg hanswered hr hresult hexecuted hrecords =>
      exact .done hg hanswered hr hresult hexecuted hrecords

end Ended

theorem Plan.pure_bind {α β : Type} (a : α) (k : α → Plan β) :
    Plan.bind (pure a) k = k a := rfl

namespace Service

open Statement

/-! ## The shared steps -/

/-- The steps from a statement on: the gate, the execution, the record and the answer. -/
def finishSearch {α : Type} (maxRows : Int) (statement : Text)
    (report : Text → List Json → SavedSearch) (answer : Text → List Json → α) : Plan α := do
  let sql ← Plan.ofExcept (gate statement maxRows)
  let rows ← execute sql
  record (report sql rows)
  return answer sql rows

variable {α : Type} {around : Surroundings} {limit : Duration}

/-- A statement that passes the gate is executed, and what comes next depends on the outcome. -/
theorem finishSearch_of_gate {maxRows : Int} {statement sql : Text}
    (report : Text → List Json → SavedSearch) (answer : Text → List Json → α)
    (h : gate statement maxRows = .ok sql) :
    ∃ next, finishSearch maxRows statement report answer = .execute sql next ∧
      (∀ reason, next (.error reason) = .finish (.error (.executionFailed reason sql))) ∧
      ∀ rows, next (.ok rows) =
        .append (report sql rows) fun _ => .finish (.ok (answer sql rows)) := by
  rw [finishSearch, h]
  exact ⟨_, rfl, fun _ => rfl, fun _ => rfl⟩

/-- The shared steps end a search, when the log answers at once. -/
theorem ended_finishSearch (hlog : ∀ n, (around.append n).wait = 0) (maxRows : Int)
    (statement : Text) (report : Text → List Json → SavedSearch)
    (answer : Text → List Json → α) {waited : Nat} {s : SessionState}
    {answered : List Json → Prop}
    (hanswered : ∀ rows, answered rows ↔ (around.executor s.executions).outcome = .ok rows ∧
      waited + (around.executor s.executions).wait ≤ limit.milliseconds) :
    Ended (gate statement maxRows = .ok ·) answered
      (fun sql rows record a => record = report sql rows ∧ a = answer sql rows)
      ((finishSearch maxRows statement report answer).perform around limit waited s) := by
  cases hgate : gate statement maxRows with
  | error fault =>
      have hplan : finishSearch maxRows statement report answer = .finish (.error fault) := by
        rw [finishSearch, hgate]
        rfl
      rw [hplan]
      exact .refused rfl rfl rfl
  | ok sql =>
      obtain ⟨next, hplan, hfailed, hrows⟩ := finishSearch_of_gate report answer hgate
      rw [hplan, Plan.perform]
      by_cases hlate : limit.milliseconds < waited + (around.executor s.executions).wait
      · rw [if_pos hlate]
        refine .failed rfl (fun rows h => ?_) rfl (by simp [Fault.status]) rfl rfl
        exact absurd ((hanswered rows).1 h).2 (by omega)
      · rw [if_neg hlate]
        cases houtcome : (around.executor s.executions).outcome with
        | error reason =>
            rw [hfailed]
            refine .failed rfl (fun rows h => ?_) rfl (by simp [Fault.status]) rfl rfl
            exact absurd (houtcome.symm.trans ((hanswered rows).1 h).1) (by simp)
        | ok rows =>
            simp only [hrows, Plan.perform, hlog, Nat.add_zero, hlate, if_false]
            exact .done rfl ((hanswered rows).2 ⟨houtcome, by omega⟩) ⟨rfl, rfl⟩ rfl rfl rfl

/-! ## The three operations -/

/-- The record of a request in free text. -/
def requestRecord (q : NaturalQuery) (sql : Text) (rows : List Json) : SavedSearch where
  callerId := q.userId
  displayName := displayName (Text.trim q.query)
  kind := .naturalLanguage
  rawText := some (Text.trim q.query)
  sql := some sql
  parameters := none
  resultCount := rows.length

theorem natural_eq (maxRows : Int) {q : NaturalQuery} (h : (Text.trim q.query).isEmpty = false) :
    natural maxRows q = .ask Lots.prompt (Text.trim q.query) fun reply =>
      finishSearch maxRows (understand reply (Text.trim q.query)).sql (requestRecord q)
        (fun sql rows => ⟨rows, (understand reply (Text.trim q.query)).explanation, sql,
          (understand reply (Text.trim q.query)).source⟩) := by
  simp only [natural, h]
  rfl

/-- What comes after the look-up of a template. -/
theorem byTemplate_eq (maxRows : Int) (q : TemplateQuery) :
    ∃ next, byTemplate maxRows q = .findTemplate q.templateId next ∧
      (∀ reason, next (.error reason) = .finish (.error (.internal reason))) ∧
      next (.ok none) = .finish (.error (unknown "template" q.templateId)) ∧
      (∀ t fault, t.resolve q.parameters = .error fault →
        next (.ok (some t)) = .finish (.error fault)) ∧
      ∀ t resolved, t.resolve q.parameters = .ok resolved →
        next (.ok (some t)) = finishSearch maxRows resolved.sql
          (fun sql rows =>
            { callerId := q.userId
              displayName := t.name
              kind := .template
              rawText := none
              sql := some sql
              parameters := some resolved.parameters
              resultCount := rows.length })
          (fun sql rows => ⟨rows, sql, t⟩) := by
  refine ⟨_, rfl, fun _ => rfl, rfl, fun t fault h => ?_, fun t resolved h => ?_⟩
  · simp only [Plan.orInternal, bind, Plan.bind, Plan.pure_bind, Plan.ofExcept, h]
  · simp only [Plan.orInternal, bind, Plan.bind, Plan.pure_bind, Plan.ofExcept, h]
    rfl

/-- What comes after the look-up of an opportunity type. -/
theorem byOpportunity_eq (maxRows : Int) {q : OpportunityQuery} {borough : Option Borough}
    (h : OpportunityType.region q.borough = .ok borough) :
    ∃ next, byOpportunity maxRows q = .findOpportunity q.opportunityTypeId next ∧
      (∀ reason, next (.error reason) = .finish (.error (.internal reason))) ∧
      next (.ok none) =
        .finish (.error (unknown "opportunity type" q.opportunityTypeId)) ∧
      ∀ o, next (.ok (some o)) = finishSearch maxRows (o.statement borough)
        (fun sql rows =>
          { callerId := q.userId
            displayName := opportunityName o borough
            kind := .opportunity
            rawText := none
            sql := some sql
            parameters := borough.map fun b => [("borough".toList, .text b.code.toList)]
            resultCount := rows.length })
        (fun sql rows => ⟨rows, sql, o, borough⟩) := by
  rw [byOpportunity, h]
  exact ⟨_, rfl, fun _ => rfl, rfl, fun _ => rfl⟩

end Service

end LotSearch

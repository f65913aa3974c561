import LotSearch.Service.Plan

/-!
# Sessions

A session performs the plans of requests one after another.  The parts around the service answer
each call with an outcome after a waiting time; a request ends as soon as it has waited longer
than its limit.  The log of searches keeps what is added to it, and everything that happens is
noted in order.
-/

namespace LotSearch

/-- An answer and the milliseconds that it takes. -/
structure Answer (α : Type) where
  wait : Nat
  outcome : α
deriving Repr

/-- How the parts around the service behave: each answers its calls by number. -/
structure Surroundings where
  model : Nat → Answer (Except ModelFailure Text)
  findTemplate : Nat → Text → Answer (Except Failure (Option Template))
  listTemplates : Nat → Answer (Except Failure (List Template))
  findOpportunity : Nat → Text → Answer (Except Failure (Option OpportunityType))
  listOpportunities : Nat → Answer (Except Failure (List OpportunityType))
  executor : Nat → Answer (Except Failure (List Json))
  /-- Whether a record is added, or why not. -/
  append : Nat → Answer (Except Failure Unit)
  /-- Whether the log can be listed, or why not. -/
  list : Nat → Answer (Except Failure Unit)

inductive Event where
  | asked (system user : Text)
  | executed (sql : Text)
  /-- An attempt to add a record, and whether the record was added. -/
  | appended (record : SavedSearch) (stored : Bool)
  | listed (caller : Text) (offset limit : Int)
deriving Repr, BEq

/-- The numbers of calls so far, and the log of searches. -/
structure SessionState where
  modelCalls : Nat := 0
  catalogCalls : Nat := 0
  executions : Nat := 0
  appends : Nat := 0
  listings : Nat := 0
  log : SearchLog := []

/-- The result of a plan, the state after it and what happened. -/
structure Course (α : Type) where
  result : Except Fault α
  state : SessionState
  events : List Event

namespace Course

/-- The course with something that happened before it. -/
def after {α : Type} (event : Event) (c : Course α) : Course α :=
  { c with events := event :: c.events }

end Course

namespace Plan

/-- The course that ends because of its waiting time. -/
def cutOff {α : Type} (limit : Duration) (s : SessionState) : Course α :=
  ⟨.error (.timedOut limit), s, []⟩

/-- Performs a plan that has waited `waited` milliseconds already. -/
def perform {α : Type} (around : Surroundings) (limit : Duration) :
    Plan α → Nat → SessionState → Course α
  | finish result, _, s => ⟨result, s, []⟩
  | ask system user next, waited, s =>
      let answer := around.model s.modelCalls
      let s := { s with modelCalls := s.modelCalls + 1 }
      let waited := waited + answer.wait
      Course.after (.asked system user)
        (if limit.milliseconds < waited then cutOff limit s
        else (next answer.outcome).perform around limit waited s)
  | findTemplate id next, waited, s =>
      let answer := around.findTemplate s.catalogCalls id
      let s := { s with catalogCalls := s.catalogCalls + 1 }
      let waited := waited + answer.wait
      if limit.milliseconds < waited then cutOff limit s
      else (next answer.outcome).perform around limit waited s
  | listTemplates next, waited, s =>
      let answer := around.listTemplates s.catalogCalls
      let s := { s with catalogCalls := s.catalogCalls + 1 }
      let waited := waited + answer.wait
      if limit.milliseconds < waited then cutOff limit s
      else (next answer.outcome).perform around limit waited s
  | findOpportunity id next, waited, s =>
      let answer := around.findOpportunity s.catalogCalls id
      let s := { s with catalogCalls := s.catalogCalls + 1 }
      let waited := waited + answer.wait
      if limit.milliseconds < waited then cutOff limit s
      else (next answer.outcome).perform around limit waited s
  | listOpportunities next, waited, s =>
      let answer := around.listOpportunities s.catalogCalls
      let s := { s with catalogCalls := s.catalogCalls + 1 }
      let waited := waited + answer.wait
      if limit.milliseconds < waited then cutOff limit s
      else (next answer.outcome).perform around limit waited s
  | execute sql next, waited, s =>
      let answer := around.executor s.executions
      let s := { s with executions := s.executions + 1 }
      let waited := waited + answer.wait
      Course.after (.executed sql)
        (if limit.milliseconds < waited then cutOff limit s
        else (next answer.outcome).perform around limit waited s)
  | append record next, waited, s =>
      let answer := around.append s.appends
      let s := { s with appends := s.appends + 1 }
      let waited := waited + answer.wait
      let stored := waited ≤ limit.milliseconds && answer.outcome.isOk
      let s := if stored then { s with log := s.log ++ [record] } else s
      Course.after (.appended record stored)
        (if limit.milliseconds < waited then cutOff limit s
        else (next answer.outcome).perform around limit waited s)
  | listSearches caller offset count next, waited, s =>
      let answer := around.list s.listings
      let s := { s with listings := s.listings + 1 }
      let waited := waited + answer.wait
      let outcome := answer.outcome.map fun _ => s.log.list caller offset count
      Course.after (.listed caller offset count)
        (if limit.milliseconds < waited then cutOff limit s
        else (next outcome).perform around limit waited s)

end Plan

end LotSearch

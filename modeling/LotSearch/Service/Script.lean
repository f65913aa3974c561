import LotSearch.Service.Session

/-!
# Scripted surroundings

For trying the service out, the parts around it follow a script: the model and the executor give
listed answers, the last one again and again; templates and opportunity types are looked up in
lists; and the log of searches may fail.
-/

namespace LotSearch

/-- A script of the parts around the service. -/
structure Script where
  model : List (Except ModelFailure Text) := []
  executor : List (Answer (Except Failure (List Json))) := []
  /-- Templates by identifier; one whose parameters cannot be read has no value. -/
  templates : List (Text × Option Template) := []
  opportunities : List OpportunityType := []
  logFails : Bool := false

namespace Script

/-- The entry of a list for the call of a number; the last entry stands for all later calls. -/
def entry {α : Type} (entries : List α) (default : α) (n : Nat) : α :=
  (entries[n]?.or entries.getLast?).getD default

/-- An answer without waiting time. -/
def atOnce {α : Type} (outcome : α) : Answer α := ⟨0, outcome⟩

/-- The reason why a template with unreadable parameters is not available. -/
def unreadable : Failure := "unreadable parameter schema".toList

def findTemplate (s : Script) (id : Text) : Except Failure (Option Template) :=
  match s.templates.find? fun (i, _) => i == id with
  | none => .ok none
  | some (_, some t) => .ok (some t)
  | some (_, none) => .error unreadable

/-- Lists the templates, if all can be read. -/
def listTemplates (s : Script) : Except Failure (List Template) :=
  match s.templates.mapM Prod.snd with
  | some templates => .ok templates
  | none => .error unreadable

def log (s : Script) : Except Failure Unit :=
  if s.logFails then .error "the log of searches is not available".toList else .ok ()

/-- The surroundings that follow a script. -/
def surroundings (s : Script) : Surroundings where
  model n := atOnce (entry s.model (.error .missingCredential) n)
  findTemplate _ id := atOnce (s.findTemplate id)
  listTemplates _ := atOnce s.listTemplates
  findOpportunity _ id := atOnce (.ok (s.opportunities.find? fun o => o.id == id))
  listOpportunities _ := atOnce (.ok s.opportunities)
  executor n := entry s.executor (atOnce (.ok [])) n
  append _ := atOnce s.log
  list _ := atOnce s.log

end Script

/-- How long a connection to the database is waited for. -/
def connectionWait : Duration := Duration.ofSeconds 30

/-- The surroundings without a database and without a credential for the model: every access to
the database is waited for and fails. -/
def noDatabase : Surroundings :=
  let unavailable {α : Type} : Answer (Except Failure α) :=
    ⟨connectionWait.milliseconds, .error "database unavailable: TimedOut".toList⟩
  { model := fun _ => Script.atOnce (.error .missingCredential)
    findTemplate := fun _ _ => unavailable
    listTemplates := fun _ => unavailable
    findOpportunity := fun _ _ => unavailable
    listOpportunities := fun _ => unavailable
    executor := fun _ => unavailable
    append := fun _ => unavailable
    list := fun _ => unavailable }

end LotSearch

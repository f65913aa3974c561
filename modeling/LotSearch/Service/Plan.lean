import LotSearch.Opportunity
import LotSearch.SavedSearch
import LotSearch.Template.Resolved

/-!
# Plans of requests

What the service does for a request is a plan: a tree of calls to the parts around it, in which
every later step depends on the answers to earlier calls.  A plan names the calls and never
performs them, so all its courses can be looked at.
-/

namespace LotSearch

/-- Why the language model gave no reply. -/
inductive ModelFailure where
  | missingCredential
  | transport (reason : Text)
  | badStatus (status : Nat) (body : Text)
  | malformedBody (reason : Text)
deriving Repr, DecidableEq

namespace ModelFailure

def message : ModelFailure → Text
  | missingCredential => "language model credential is not configured".toList
  | transport reason => "language model request failed: ".toList ++ reason
  | badStatus status body =>
      "language model returned status ".toList ++ Text.ofNat status ++ ": ".toList ++ body
  | malformedBody reason => "language model response was malformed: ".toList ++ reason

end ModelFailure

/-- The reason why a part of the service failed. -/
abbrev Failure := Text

/-- The calls for a request, ending in a result. -/
inductive Plan (α : Type) where
  | finish (result : Except Fault α)
  /-- Asks the language model, with instructions and the words of the caller. -/
  | ask (system user : Text) (next : Except ModelFailure Text → Plan α)
  /-- Looks a template up. -/
  | findTemplate (id : Text) (next : Except Failure (Option Template) → Plan α)
  /-- Lists all templates. -/
  | listTemplates (next : Except Failure (List Template) → Plan α)
  /-- Looks an opportunity type up. -/
  | findOpportunity (id : Text) (next : Except Failure (Option OpportunityType) → Plan α)
  /-- Lists all opportunity types. -/
  | listOpportunities (next : Except Failure (List OpportunityType) → Plan α)
  /-- Executes a statement. -/
  | execute (sql : Text) (next : Except Failure (List Json) → Plan α)
  /-- Adds a record to the log of searches. -/
  | append (record : SavedSearch) (next : Except Failure Unit → Plan α)
  /-- Lists a part of the records of a caller. -/
  | listSearches (caller : Text) (offset limit : Int)
      (next : Except Failure (List LoggedSearch) → Plan α)

namespace Plan

/-- The plan that goes on with the result of another. -/
def bind {α β : Type} : Plan α → (α → Plan β) → Plan β
  | finish (.ok a), k => k a
  | finish (.error fault), _ => finish (.error fault)
  | ask system user next, k => ask system user fun answer => (next answer).bind k
  | findTemplate id next, k => findTemplate id fun answer => (next answer).bind k
  | listTemplates next, k => listTemplates fun answer => (next answer).bind k
  | findOpportunity id next, k => findOpportunity id fun answer => (next answer).bind k
  | listOpportunities next, k => listOpportunities fun answer => (next answer).bind k
  | execute sql next, k => execute sql fun answer => (next answer).bind k
  | append record next, k => append record fun answer => (next answer).bind k
  | listSearches caller offset limit next, k =>
      listSearches caller offset limit fun answer => (next answer).bind k

instance : Monad Plan where
  pure a := finish (.ok a)
  bind := bind

/-- The plan that only has a result. -/
def ofExcept {α : Type} (result : Except Fault α) : Plan α := finish result

/-- The plan that ends with an answer, or with a fault inside the service. -/
def orInternal {α : Type} : Except Failure α → Plan α
  | .ok a => finish (.ok a)
  | .error reason => finish (.error (.internal reason))

end Plan

end LotSearch

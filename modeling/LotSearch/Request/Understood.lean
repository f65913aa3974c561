import LotSearch.Request.Explanation
import LotSearch.Request.Statement

/-!
# A request as it was understood

A request in free text becomes a statement and an explanation of how it was understood.  The
rules here answer every request, whether or not a language model is at hand.
-/

namespace LotSearch

/-- Who turned a request into a statement. -/
inductive Source where
  | model
  | rules
deriving Repr, DecidableEq

def Source.name : Source → String
  | model => "llm"
  | rules => "fallback"

/-- A statement for a request, and how the request was understood. -/
structure Understood where
  sql : Text
  explanation : Text
  source : Source
deriving Repr, DecidableEq

namespace Understood

def byRules (request : Text) : Understood :=
  let lower := Text.lower request
  let search := Search.ofRequest request lower
  ⟨search.statement, search.explanation (Vocabulary.keywords lower), .rules⟩

end Understood

end LotSearch

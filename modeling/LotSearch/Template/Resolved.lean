import LotSearch.Template.Placeholder
import LotSearch.Template.Validation

/-!
# Resolved templates

A template and supplied parameters are resolved into a statement and the parameters as they were
settled.
-/

namespace LotSearch

/-- The statement of a template and the settled parameters that went into it. -/
structure Resolved where
  sql : Text
  parameters : Json.Fields
deriving Repr, BEq

def Template.resolve (t : Template) (supplied : Json.Fields) : Except Fault Resolved := do
  let parameters ← t.schema.validate supplied
  let sql ← substitute t.sql parameters
  return ⟨sql, parameters⟩

end LotSearch

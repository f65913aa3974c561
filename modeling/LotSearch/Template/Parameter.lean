import LotSearch.Json.Printer

/-!
# Parameters of templates

A template declares its parameters by name, each with a type, whether it is required, and
perhaps the values allowed, a default and a description.  Declarations are kept as JSON; they
are read leniently and written in one form.
-/

namespace LotSearch

inductive ParameterType where
  | string
  | number
  | boolean
deriving Repr, DecidableEq

namespace ParameterType

def name : ParameterType → String
  | string => "string"
  | number => "number"
  | boolean => "boolean"

def ofName? (t : Text) : Option ParameterType :=
  if t = string.name.toList then some string
  else if t = number.name.toList then some number
  else if t = boolean.name.toList then some boolean
  else none

/-- Reads a type: its name, or an object whose only field has that name and is `null`. -/
def ofJson? : Json → Option ParameterType
  | .text t => ofName? t
  | .object [(t, .null)] => ofName? t
  | _ => none

end ParameterType

structure Parameter where
  type : ParameterType
  required : Bool
  allowed : Option (List Json)
  default : Option Json
  description : Option Text
deriving Repr, BEq

namespace Parameter

/-- An absent value or `null` as no value. -/
def present (v : Option Json) : Option Json := v.filter fun v => !v.isNull

def ofParts? (type required allowed default description : Option Json) : Option Parameter := do
  let type ← type.bind ParameterType.ofJson?
  let required ←
    match required with
    | none => some false
    | some (.bool b) => some b
    | some _ => none
  let allowed ←
    match present allowed with
    | none => some none
    | some (.list values) => some (some values)
    | some _ => none
  let description ←
    match present description with
    | none => some none
    | some (.text t) => some (some t)
    | some _ => none
  return ⟨type, required, allowed, present default, description⟩

/-- Reads a declaration: an object, or the list of its parts, the last ones of which may be left
out. -/
def ofJson? : Json → Option Parameter
  | .object fields =>
      let get (name : String) : Option Json := Json.Fields.get? name.toList fields
      ofParts? (get "type") (get "required") (get "enum") (get "default") (get "description")
  | .list parts =>
      if parts.length ≤ 5 then ofParts? parts[0]? parts[1]? parts[2]? parts[3]? parts[4]?
      else none
  | _ => none

def toJson (p : Parameter) : Json :=
  let field (name : String) (v : Option Json) : List (Text × Json) :=
    (v.map fun v => (name.toList, v)).toList
  .object (Json.Fields.ofList
    (field "type" (some (.text p.type.name.toList))
      ++ field "required" (some (.bool p.required))
      ++ field "enum" (p.allowed.map Json.list)
      ++ field "default" p.default
      ++ field "description" (p.description.map Json.text)))

end Parameter

/-- The declared parameters of a template, in the order of their names. -/
abbrev Schema := List (Text × Parameter)

namespace Schema

def ofFields? : Json.Fields → Option Schema
  | [] => some []
  | (name, v) :: fields => do
      let p ← Parameter.ofJson? v
      let schema ← ofFields? fields
      return (name, p) :: schema

/-- Reads the declarations of a template.  A template without them has no parameters. -/
def ofJson? : Option Json → Option Schema
  | none => some []
  | some .null => some []
  | some (.object fields) => ofFields? fields
  | some _ => none

def toJson (schema : Schema) : Json := .object (schema.map fun (name, p) => (name, p.toJson))

end Schema

structure Template where
  id : Text
  name : Text
  description : Option Text
  category : Option Text
  sql : Text
  schema : Schema
deriving Repr, BEq

def Template.toJson (t : Template) : Json :=
  let optional (v : Option Text) : Json := (v.map Json.text).getD .null
  .object (Json.Fields.ofList
    [("id".toList, .text t.id), ("name".toList, .text t.name),
      ("description".toList, optional t.description), ("category".toList, optional t.category),
      ("sqlTemplate".toList, .text t.sql), ("parameterSchema".toList, t.schema.toJson)])

end LotSearch

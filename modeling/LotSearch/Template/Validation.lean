import LotSearch.Fault
import LotSearch.Template.Parameter
import LotSearch.Text.Blank
import LotSearch.Text.Case

/-!
# Validation of supplied parameters

Each declared parameter is settled by its own supplied value: that value brought to the declared
type, else the default, else nothing unless the parameter is required.  Parameters that are not
declared keep their supplied values.
-/

namespace LotSearch

namespace Parameter

/-- Reads a number: an integer of 64 bits with sign, else a finite floating-point value. -/
def readNumber? (t : Text) : Option JsonNumber :=
  match Text.integerWithin? minInt64 maxInt64 t with
  | some n => some (.whole n)
  | none => ((Text.float? .double t).bind FloatReading.finite?).map .real

/-- Reads a truth value in any case. -/
def readBool? (t : Text) : Option Bool :=
  let word := Text.asciiLower t
  if word = "true".toList then some true
  else if word = "false".toList then some false
  else none

/-- A supplied value brought to a type.  Texts are read as numbers and truth values, and numbers
are written as texts. -/
def coerce? : ParameterType → Json → Option Json
  | .number, .number n => some (.number n)
  | .number, .text t => (readNumber? (Text.trim t)).map .number
  | .string, .text t => some (.text t)
  | .string, .number n => some (.text (Json.writeNumber n))
  | .boolean, .bool b => some (.bool b)
  | .boolean, .text t => (readBool? (Text.trim t)).map .bool
  | _, _ => none

/-- The fault of a parameter whose value does not have its type. -/
def mismatch (name : Text) (type : ParameterType) : Fault :=
  .invalidRequest ("parameter '".toList ++ name ++ "' must be a ".toList ++ type.name.toList)

/-- The fault of a required parameter without a value. -/
def missing (name : Text) : Fault :=
  .invalidRequest ("missing required parameter '".toList ++ name ++ ['\''])

/-- The fault of a parameter with a value that is not allowed. -/
def notAllowed (name : Text) (allowed : List Json) : Fault :=
  .invalidRequest
    ("parameter '".toList ++ name ++ "' must be one of ".toList ++ (Json.list allowed).write)

/-- The value that a declared parameter takes, given the supplied one; nothing leaves the
parameter as it was supplied. -/
def settle (p : Parameter) (name : Text) (supplied : Option Json) : Except Fault (Option Json) :=
  let value : Except Fault (Option Json) :=
    match present supplied with
    | some v =>
        match coerce? p.type v with
        | some v => .ok (some v)
        | none => .error (mismatch name p.type)
    | none =>
        match p.default with
        | some v => .ok (some v)
        | none => if p.required then .error (missing name) else .ok none
  match value, p.allowed with
  | .ok (some v), some allowed =>
      if allowed.any v.same then .ok (some v) else .error (notAllowed name allowed)
  | value, _ => value

end Parameter

namespace Schema

/-- The supplied values with every declared parameter settled, or the fault of the first
parameter in the order of names that cannot be settled. -/
def validate : Schema → Json.Fields → Except Fault Json.Fields
  | [], values => .ok values
  | (name, p) :: schema, values =>
      match p.settle name (Json.Fields.get? name values) with
      | .error fault => .error fault
      | .ok none => validate schema values
      | .ok (some v) => validate schema (Json.Fields.insert name v values)

end Schema

end LotSearch

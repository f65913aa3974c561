import LotSearch.Text.Percent

/-!
# Query strings

A query string is a list of names and values.  A plus sign stands for a space, a percent sign
with two hexadecimal digits for an octet; octets that are no UTF-8 are replaced.
-/

namespace LotSearch.Form

def decode (t : Text) : Text :=
  Percent.decodeLossy (t.map fun c => if c = '+' then ' ' else c)

/-- The names and values of a query string; a part without equals sign is a name alone. -/
def parse (query : Text) : List (Text × Text) :=
  ((Text.splitOn '&' query).filter fun part => !part.isEmpty).map fun part =>
    (decode (part.takeWhile (· != '=')), decode ((part.dropWhile (· != '=')).drop 1))

/-- The value of a name that may be given once. -/
def single (name : Text) (form : List (Text × Text)) : Option (Option Text) :=
  match (form.filter fun (n, _) => n == name).map Prod.snd with
  | [] => some none
  | [value] => some (some value)
  | _ => none

end LotSearch.Form

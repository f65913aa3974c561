import LotSearch.Text.Basic

/-!
# Targets of requests

A target names a path and perhaps a query behind a question mark.  It may be written with a scheme
and a server in front, and what follows a number sign is dropped.  Text that is neither a path nor
has a scheme names a server alone, and so no path at all.
-/

namespace LotSearch

/-- What a request is directed at. -/
structure Target where
  path : Text
  query : Text
deriving Repr, DecidableEq

namespace Target

def isSchemeChar (c : Char) : Bool := c.isAlphanum || "+-.".toList.contains c

/-- Whether a character ends the name of the server. -/
def endsServer (c : Char) : Bool := c == '/' || c == '?' || c == '#'

/-- The part of a text from its path on: the text itself, or what stands behind a scheme and a
server. -/
def fromPath? (t : Text) : Option Text :=
  if t.head? = some '/' then some t
  else
    (Text.breakAt? "://".toList t).bind fun (scheme, t) =>
      if scheme.all isSchemeChar then
        let t := t.dropWhile fun c => !endsServer c
        some (if t.head? = some '/' then t else '/' :: t)
      else none

def read (t : Text) : Target :=
  let t := ((fromPath? t).getD []).takeWhile (· != '#')
  ⟨t.takeWhile (· != '?'), (t.dropWhile (· != '?')).drop 1⟩

end Target

end LotSearch

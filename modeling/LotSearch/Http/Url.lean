import LotSearch.Text.Case
import LotSearch.Text.Percent

/-!
# Addresses on the web

A URL names a server and a target on it, which is a path with perhaps a query.  The path is
taken to its simplest form: a segment of one dot is left out, one of two dots removes the segment
before it, and characters that a target does not allow are escaped.
-/

namespace LotSearch

/-- A server and what is asked for there. -/
structure Url where
  /-- The name or address of the server, with its port. -/
  authority : Text
  target : Text
deriving Repr, DecidableEq

namespace Url

/-- Whether a character is ignored wherever it stands in a URL. -/
def isIgnored (c : Char) : Bool := c == '\t' || c == '\n' || c == '\r'

/-- Whether a character ends the name of the server. -/
def endsAuthority (c : Char) : Bool := "/\\?#".toList.contains c

/-- Whether a character ends the path. -/
def endsPath (c : Char) : Bool := c == '?' || c == '#'

def escapedInPath (c : Char) : Bool :=
  c.toNat ≤ 0x20 || 0x7F ≤ c.toNat || "\"#<>?`\x7b\x7d".toList.contains c

def escapedInQuery (c : Char) : Bool :=
  c.toNat ≤ 0x20 || 0x7F ≤ c.toNat || "\"#<>'".toList.contains c

/-- Whether a segment stands for the place it is at. -/
def isHere (segment : Text) : Bool :=
  [".", "%2e"].any fun dot => Text.asciiLower segment == dot.toList

/-- Whether a segment stands for the place above. -/
def isAbove (segment : Text) : Bool :=
  ["..", ".%2e", "%2e.", "%2e%2e"].any fun dots => Text.asciiLower segment == dots.toList

/-- The segments of a path in its simplest form, behind those that are kept, which are listed
backwards.  A path that ends in dots ends in an empty segment. -/
def simplify (kept : List Text) : List Text → List Text
  | [] => kept.reverse
  | segment :: segments =>
      let kept :=
        if isAbove segment then kept.drop 1
        else if isHere segment then kept
        else segment :: kept
      if segments.isEmpty && (isAbove segment || isHere segment) then
        simplify ([] :: kept) segments
      else simplify kept segments

/-- The simplest form of a path.  A backslash counts as a slash. -/
def simplestPath (path : Text) : Text :=
  let slashed := path.map fun c => if c = '\\' then '/' else c
  let segments := (Text.splitOn '/' (slashed.drop 1)).map (Percent.encode escapedInPath)
  '/' :: Text.join ['/'] (simplify [] segments)

/-- The query of what follows a path, with its question mark. -/
def query : Text → Text
  | '?' :: t => '?' :: Percent.encode escapedInQuery (t.takeWhile (· != '#'))
  | _ => []

def read? (t : Text) : Option Url :=
  let t := t.filter fun c => !isIgnored c
  ((Text.after? "http://".toList t).or (Text.after? "https://".toList t)).bind fun t =>
    let authority := t.takeWhile fun c => !endsAuthority c
    let rest := t.dropWhile fun c => !endsAuthority c
    if authority.isEmpty then none
    else some ⟨authority, simplestPath (rest.takeWhile fun c => !endsPath c)
      ++ query (rest.dropWhile fun c => !endsPath c)⟩

end Url

end LotSearch

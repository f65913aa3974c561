import LotSearch.Fault
import LotSearch.Json.Printer
import LotSearch.Json.Record
import LotSearch.Text.Base64Url

/-!
# Pages and their cursors

A listing is read page by page.  A cursor hides the number of entries before a page: it is the
JSON object with that number, written in Base64.  Cursors come back from callers, so every text
is read with care, and a negative number counts as zero.
-/

namespace LotSearch

/-- A page of a listing: the cursors of its neighbours and the greatest number of its entries. -/
structure Page where
  next : Option Text
  previous : Option Text
  limit : Int
deriving Repr, DecidableEq

namespace Page

/-- The cursor of the page behind the given number of entries. -/
def encodeCursor (offset : Int) : Text :=
  let payload : Json := .object [("offset".toList, .number (.whole (max offset 0)))]
  Base64Url.encode (Utf8.encode payload.write)

def cursorSlots : List Json.Slot := [⟨["offset".toList], .integer⟩]

/-- Octets as characters of one octet each. -/
def octetText (octets : Octets) : Text := octets.map Char.ofNat

/-- Reads a quoted name from octets, which must be UTF-8. -/
def readOctetName (t : Text) : Reading (Text × Text) :=
  match Json.splitQuoted t with
  | some (inside, _) =>
      if Utf8.isValid (inside.map Char.toNat) then Json.readQuoted t else .error .malformed
  | none => .error .malformed

/-- The number in the payload of a cursor.  Skipped texts may be any octets. -/
def readPayload (octets : Octets) : Option Int :=
  match Json.readRecordWith readOctetName cursorSlots (octetText octets) with
  | .ok ([some (.number (.whole n))], rest) =>
      if (Json.skipSpace rest).isEmpty then some n else none
  | _ => none

/-- The number of entries before the page that a cursor stands for. -/
def decodeCursor (cursor : Text) : Except Fault Int :=
  match Base64Url.decode? cursor with
  | none => .error (.invalidRequest "invalid cursor".toList)
  | some octets =>
      match readPayload octets with
      | none => .error (.invalidRequest "invalid cursor payload".toList)
      | some offset => .ok (max offset 0)

/-- A count of 64 bits, read with a sign. -/
def signedCount (n : Nat) : Int := Int.bmod n 18446744073709551616

/-- The page at an offset that brought a number of entries.  A full page has a next one. -/
def ofFetched (offset limit : Int) (fetched : Nat) : Page where
  next := if limit ≤ signedCount fetched then some (encodeCursor (offset + limit)) else none
  previous := if 0 < offset then some (encodeCursor (min (offset - limit) maxInt64)) else none
  limit := limit

def toJson (page : Page) : Json :=
  let cursor (c : Option Text) : Json := (c.map Json.text).getD .null
  .object (Json.Fields.ofList
    [("next_cursor".toList, cursor page.next), ("prev_cursor".toList, cursor page.previous),
      ("limit".toList, .number (.whole page.limit))])

end Page

end LotSearch

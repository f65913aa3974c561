import LotSearch.Text.Blank
import LotSearch.Text.Case
import LotSearch.Text.Digit

/-!
# Media types

A media type has a type, a subtype and perhaps parameters.  What follows the last plus sign of a
subtype, unless that sign begins it, is a suffix that names the syntax.  A body is read as JSON
when its content type is a well-formed application type whose subtype without suffix, or whose
suffix, is `json`, in any case and with any parameters.
-/

namespace LotSearch

/-- A media type without its parameters, in small letters. -/
structure MediaType where
  type : Text
  subtype : Text
  suffix : Option Text
deriving Repr, DecidableEq

namespace MediaType

/-- Whether a character may stand in a type, a subtype or a parameter. -/
def isTokenChar (c : Char) : Bool :=
  (c.isAlphanum || "!#$%&'*+-.^_`|~".toList.contains c) && c.toNat < 0x80

/-- Whether a character is visible in ASCII, a space or a tab. -/
def isPlain (c : Char) : Bool := (0x20 ≤ c.toNat && c.toNat < 0x7F) || c == '\t'

/-- Reads the value of a parameter in quotes: at least one character, of which the first may be
a quote itself, up to the closing quote; then spaces, and the next parameter behind a semicolon.
-/
def quotedValue? : Bool → Text → Option (Option Text)
  | _, [] => none
  | isEmpty, c :: t =>
      if c = '"' && !isEmpty then
        match t.dropWhile (· == ' ') with
        | [] => some none
        | ';' :: t => some (some t)
        | _ => none
      else if isPlain c && c != '\t' then quotedValue? false t
      else none

/-- Reads the value of a parameter, and gives what follows behind a semicolon. -/
def value? (t : Text) : Option (Option Text) :=
  match t with
  | '"' :: t => quotedValue? true t
  | t =>
      match t.dropWhile isTokenChar with
      | [] => some none
      | ';' :: rest => if t.head? = some ';' then none else some (some rest)
      | _ => none

/-- Whether a text is a list of parameters, at most `fuel`: each a name, an equals sign and a
value, with spaces before the name. -/
def areParameters : Nat → Text → Bool
  | 0, t => t.isEmpty
  | fuel + 1, t =>
      match t.dropWhile (· == ' ') with
      | [] => true
      | t =>
          match t.dropWhile isTokenChar with
          | '=' :: rest =>
              if t.head? = some '=' then false
              else
                match value? rest with
                | some none => true
                | some (some rest) => areParameters fuel rest
                | none => false
          | _ => false

/-- A media type of a type and a subtype with its suffix. -/
def ofParts (type subtype : Text) : MediaType :=
  let type := Text.asciiLower type
  let subtype := Text.asciiLower subtype
  match Text.breakAtLast? '+' subtype with
  | none | some ([], _) => ⟨type, subtype, none⟩
  | some (subtype, suffix) => ⟨type, subtype, some suffix⟩

/-- Reads a media type, when the whole text is well formed. -/
def read? (t : Text) : Option MediaType :=
  let type := t.takeWhile isTokenChar
  match t.dropWhile isTokenChar with
  | '/' :: rest =>
      let subtype := rest.takeWhile isTokenChar
      if type.isEmpty then none
      else
        match rest.dropWhile isTokenChar with
        | [] => some (ofParts type subtype)
        | ';' :: parameters =>
            if !subtype.isEmpty && areParameters parameters.length parameters then
              some (ofParts type subtype)
            else none
        | _ => none
  | _ => none

def isJson (m : MediaType) : Bool :=
  m.type == "application".toList
    && (m.subtype == "json".toList || m.suffix == some "json".toList)

def announcesJson (t : Text) : Bool := t.all isPlain && (read? t).any isJson

end MediaType

end LotSearch

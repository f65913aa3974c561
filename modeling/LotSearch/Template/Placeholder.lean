import LotSearch.Fault
import LotSearch.Json.Printer
import LotSearch.Text.Blank

/-!
# Placeholders

The text of a template is cut into characters and placeholders once, and each placeholder is
replaced by the literal of its value.  Values are not cut again, so a value that looks like a
placeholder stays as it is.
-/

namespace LotSearch

/-- A piece of the text of a template. -/
inductive Piece where
  | char (c : Char)
  | slot (name : Text)
deriving Repr, DecidableEq

namespace Piece

def isNameStart (c : Char) : Bool := c.isAlpha || c == '_'

def isNameChar (c : Char) : Bool := c.isAlphanum || c == '_'

def opening : Text := ['\x7b', '\x7b']

def closing : Text := ['\x7d', '\x7d']

/-- Reads a placeholder that begins the text: a name, perhaps among blanks, in double braces. -/
def placeholder? (t : Text) : Option (Text × Text) :=
  match (Text.after? opening t).map Text.trimStart with
  | none => none
  | some [] => none
  | some (c :: t) =>
      if isNameStart c then
        (Text.after? closing (Text.trimStart (t.dropWhile isNameChar))).map fun rest =>
          (c :: t.takeWhile isNameChar, rest)
      else none

theorem length_lt_of_placeholder? {t name rest : Text} (h : placeholder? t = some (name, rest)) :
    rest.length < t.length := by
  unfold placeholder? at h
  split at h
  · simp at h
  · simp at h
  · rename_i c u hu
    split at h
    · obtain ⟨r, hr, heq⟩ := Option.map_eq_some_iff.1 h
      cases heq
      obtain ⟨s, hs, hsu⟩ := Option.map_eq_some_iff.1 hu
      have h1 := congrArg List.length (Text.after?_eq_some_iff.1 hs)
      have h2 := congrArg List.length (Text.after?_eq_some_iff.1 hr)
      have h3 : (c :: u).length ≤ s.length := hsu ▸ Text.trimStart_length_le s
      have h4 := Text.trimStart_length_le (u.dropWhile isNameChar)
      have h5 : (u.dropWhile isNameChar).length ≤ u.length :=
        (List.dropWhile_sublist _).length_le
      simp only [List.length_append, List.length_cons] at h1 h2 h3
      omega
    · simp at h

def ofText : Text → List Piece
  | [] => []
  | c :: t =>
      match _found : placeholder? (c :: t) with
      | some (name, rest) => slot name :: ofText rest
      | none => char c :: ofText t
termination_by t => t.length
decreasing_by
  · exact length_lt_of_placeholder? ‹_›
  · simp

def slotName? : Piece → Option Text
  | slot name => some name
  | char _ => none

/-- The contents of a literal: every quote is doubled. -/
def doubleQuotes (t : Text) : Text := t.flatMap fun c => if c = '\'' then ['\'', '\''] else [c]

/-- The literal of a value in a statement; lists and objects have none. -/
def literal? : Json → Option Text
  | .null => some "NULL".toList
  | .bool true => some "TRUE".toList
  | .bool false => some "FALSE".toList
  | .number n => some (Json.writeNumber n)
  | .text t => some ('\'' :: doubleQuotes t ++ ['\''])
  | .list _ => none
  | .object _ => none

/-- The text of a piece, when a placeholder has a value with a literal. -/
def render (values : Json.Fields) : Piece → Text
  | char c => [c]
  | slot name => ((Json.Fields.get? name values).bind literal?).getD []

/-- The name of a placeholder whose value has no literal. -/
def nonScalar? (values : Json.Fields) (piece : Piece) : Option Text := do
  let name ← piece.slotName?
  let v ← Json.Fields.get? name values
  if (literal? v).isNone then some name else none

/-- The name of a placeholder without a value. -/
def unvalued? (values : Json.Fields) (piece : Piece) : Option Text := do
  let name ← piece.slotName?
  if (Json.Fields.get? name values).isNone then some name else none

end Piece

/-- The text of a template with its placeholders replaced.  A value without literal is reported
before placeholders without values. -/
def substitute (template : Text) (values : Json.Fields) : Except Fault Text :=
  let pieces := Piece.ofText template
  match pieces.findSome? (Piece.nonScalar? values) with
  | some name =>
      .error (.invalidRequest
        ("parameter '".toList ++ name ++ "' must be a scalar value".toList))
  | none =>
      match Text.distinct (pieces.filterMap (Piece.unvalued? values)) with
      | [] => .ok (pieces.flatMap (Piece.render values))
      | names =>
          .error (.invalidRequest
            ("unresolved template placeholders: ".toList ++ Text.join ", ".toList names))

end LotSearch

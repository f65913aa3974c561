import LotSearch.Json.Reader

/-!
# Reading a record

A record has a fixed list of slots, each with its names and the type of its value.  It is
written as an object, in which unknown fields are skipped and no slot occurs twice, or as a list
of values in the order of the slots, the last ones of which may be left out.
-/

namespace LotSearch.Json

inductive SlotType where
  | text
  /-- A text or `null`. -/
  | optionalText
  /-- An integer of 64 bits with sign. -/
  | integer
  /-- An object of any values. -/
  | object
deriving Repr, DecidableEq

/-- A slot of a record: the names it may be written under, and its type. -/
structure Slot where
  names : List Text
  type : SlotType
deriving Repr, DecidableEq

/-- The problem with a value of a wrong type: a text, word or number that is broken itself counts
as broken. -/
def refuse {α : Type} (t : Text) : Reading (α × Text) :=
  let wrong {β : Type} (r : Reading β) : Reading (α × Text) :=
    match r with
    | .ok _ => .error .mistyped
    | .error problem => .error problem
  match t with
  | '"' :: t => wrong (readQuoted t)
  | '[' :: _ => .error .mistyped
  | '\x7b' :: _ => .error .mistyped
  | 'n' :: t => wrong (readWord "ull".toList t)
  | 't' :: t => wrong (readWord "rue".toList t)
  | 'f' :: t => wrong (readWord "alse".toList t)
  | t => wrong (readNumber t)

/-- Reads the value of a slot, in which at most `depth` lists and objects are nested. -/
def readSlot (depth : Nat) (type : SlotType) (t : Text) : Reading (Json × Text) :=
  match type, skipSpace t with
  | .text, '"' :: t => do
      let (value, t) ← readQuoted t
      return (Json.text value, t)
  | .optionalText, '"' :: t => do
      let (value, t) ← readQuoted t
      return (Json.text value, t)
  | .optionalText, 'n' :: t => do
      let t ← readWord "ull".toList t
      return (null, t)
  | .object, '\x7b' :: t =>
      match depth with
      | 0 => .error .malformed
      | depth + 1 => do
          let (fields, t) ← readFields readQuoted (readNamed (readValue depth)) [] t
          return (Json.object fields, t)
  | .integer, t => do
      if t.head?.any fun c => c == '-' || isAsciiDigit c then
        let (n, t) ← readNumber t
        match n with
        | .whole n =>
            if minInt64 ≤ n && n ≤ maxInt64 then return (number (.whole n), t)
            else .error .mistyped
        | .real _ => .error .mistyped
      else refuse t
  | _, t => refuse t

/-- The values of a record's slots, in their order. -/
abbrev SlotValues := List (Option Json)

/-- Reads the field of a record behind its name. -/
def readSlotField (slots : List Slot) (depth : Nat) (values : SlotValues) (name : Text)
    (t : Text) : Reading (SlotValues × Text) :=
  match slots.findIdx? fun slot => slot.names.contains name with
  | none => do
      let t ← readColon t
      let (_, t) ← skipValue t.length t
      return (values, t)
  | some i =>
      match values[i]?, slots[i]? with
      | some none, some slot => do
          let t ← readColon t
          let (v, t) ← readSlot depth slot.type t
          return (values.set i (some v), t)
      | _, _ => .error .mistyped

/-- Reads the values of the slots of a record written as a list, behind the opening bracket. -/
def readSlotItems (depth : Nat) : Bool → List Slot → Text → Reading (SlotValues × Text)
  | _, [], t =>
      match skipSpace t with
      | ']' :: t => .ok ([], t)
      | _ => .error .malformed
  | isFirst, slot :: slots, t =>
      match skipSpace t with
      | ']' :: t => .ok (List.replicate (slots.length + 1) none, t)
      | ',' :: t =>
          if isFirst then .error .malformed
          else do
            let (v, t) ← readSlot depth slot.type t
            let (vs, t) ← readSlotItems depth false slots t
            return (some v :: vs, t)
      | t =>
          if isFirst then do
            let (v, t) ← readSlot depth slot.type t
            let (vs, t) ← readSlotItems depth false slots t
            return (some v :: vs, t)
          else .error .malformed

/-- The greatest number of lists and objects that may be nested in a text. -/
def maxNesting : Nat := 127

/-- Reads a record, with a reader for the names of its fields. -/
def readRecordWith (quoted : Text → Reading (Text × Text)) (slots : List Slot) (t : Text) :
    Reading (SlotValues × Text) :=
  match skipSpace t with
  | '\x7b' :: t =>
      readFields quoted (readSlotField slots (maxNesting - 1)) (slots.map fun _ => none) t
  | '[' :: t => readSlotItems (maxNesting - 1) true slots t
  | t => refuse t

def readRecord (slots : List Slot) (t : Text) : Reading (SlotValues × Text) :=
  readRecordWith readQuoted slots t

/-- Reads a text that is one record with nothing but spaces after it. -/
def readWholeRecord (slots : List Slot) (t : Text) : Reading SlotValues := do
  let (values, rest) ← readRecord slots t
  if (skipSpace rest).isEmpty then return values else .error .malformed

end LotSearch.Json

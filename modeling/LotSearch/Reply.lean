import LotSearch.Json.Record
import LotSearch.Text.Blank

/-!
# Replies of the language model

The model is asked for a JSON object with a statement and an explanation, but may wrap it in
prose or in a code fence, or write it badly.  Three ways of finding the object are tried in
order; when none leads to a statement, the two fields are looked for on their own.
-/

namespace LotSearch

structure Reply where
  sql : Text
  explanation : Text
deriving Repr, DecidableEq

namespace Reply

/-- The explanation of a reply that brings none. -/
def defaultExplanation : Text := "Generated a query from your description.".toList

def fence : Text := "```".toList

/-- The text up to the next fence, trimmed. -/
def upToFence? (t : Text) : Option Text := (Text.breakAt? fence t).map fun (inside, _) =>
  Text.trim inside

/-- The contents of the first fence that is marked as JSON. -/
def jsonFence? (t : Text) : Option Text :=
  (Text.breakAt? (fence ++ "json".toList) t).bind fun (_, rest) => upToFence? rest

/-- The contents of the first fence, behind any letters that mark it. -/
def bareFence? (t : Text) : Option Text :=
  (Text.breakAt? fence t).bind fun (_, rest) => upToFence? (rest.dropWhile Char.isAlpha)

/-- Whether a place is inside a quoted text, and behind a backslash there. -/
inductive Quoting where
  | outside
  | inside
  | escaped
deriving Repr, DecidableEq

namespace Quoting

/-- The state behind one more character. -/
def next : Quoting → Char → Quoting
  | outside, c => if c = '"' then inside else outside
  | inside, c => if c = '\\' then escaped else if c = '"' then outside else inside
  | escaped, _ => inside

end Quoting

/-- The text up to the brace that closes the outermost of `depth` open ones.  Braces in quoted
texts do not count. -/
def closeBraces? : Quoting → Nat → Text → Option Text
  | _, _, [] => none
  | q, depth, c :: t =>
      if q = .outside ∧ c = '\x7b' then (closeBraces? .outside (depth + 1) t).map (c :: ·)
      else if q = .outside ∧ c = '\x7d' then
        if depth = 1 then some [c] else (closeBraces? .outside (depth - 1) t).map (c :: ·)
      else (closeBraces? (q.next c) depth t).map (c :: ·)

/-- The text from the first opening brace to the brace that closes it. -/
def firstObject? (t : Text) : Option Text :=
  closeBraces? .outside 0 (t.dropWhile (· != '\x7b'))

/-- The texts that may hold the object, in the order in which they are tried. -/
def candidates (t : Text) : List Text :=
  [jsonFence? t, bareFence? t, firstObject? t].filterMap fun candidate =>
    candidate.filter fun inside => !inside.isEmpty

/-- A reply with a statement that is not blank; a blank explanation counts as none. -/
def ofFields (sql explanation : Option Text) : Option Reply :=
  match (sql.map Text.trim).filter fun t => !t.isEmpty with
  | none => none
  | some sql =>
      let explanation := (explanation.map Text.trim).filter fun t => !t.isEmpty
      some ⟨sql, explanation.getD defaultExplanation⟩

def slots : List Json.Slot :=
  [⟨["sql".toList], .optionalText⟩, ⟨["explanation".toList], .optionalText⟩]

def ofObject? (t : Text) : Option Reply :=
  match Json.readWholeRecord slots t with
  | .ok [sql, explanation] => ofFields (sql.bind Json.text?) (explanation.bind Json.text?)
  | _ => none

/-- The inside of the quoted value of a field whose quoted name begins the text. -/
def fieldAt? (name : Text) (t : Text) : Option Text :=
  match (Text.after? ('"' :: name ++ ['"']) t).map Text.trimStart with
  | some (':' :: t) =>
      match Text.trimStart t with
      | '"' :: t => (Json.splitQuoted t).map Prod.fst
      | _ => none
  | _ => none

/-- The inside of the quoted value of the first field of a name. -/
def field? (name : Text) : Text → Option Text
  | [] => none
  | c :: t =>
      match fieldAt? name (c :: t) with
      | some inside => some inside
      | none => field? name t

/-- The text that the inside of a quoted value stands for, or the inside itself when it is not
well formed. -/
def decoded (inside : Text) : Text := (Json.unescape? inside).getD inside

def ofLooseFields? (t : Text) : Option Reply :=
  ofFields ((field? "sql".toList t).map decoded) ((field? "explanation".toList t).map decoded)

def read? (t : Text) : Option Reply :=
  match (candidates t).findSome? ofObject? with
  | some reply => some reply
  | none => ofLooseFields? t

/-- What is said of a text without a statement. -/
def missingStatement : Text := "model output contained no sql field".toList

end Reply

end LotSearch

import LotSearch.Http.Url
import LotSearch.Service.Plan
import LotSearch.Settings.Environment

/-!
# Conversations with the language model

The model is asked by one request that carries the instructions, the words of the caller and the
credential.  Its answer is a JSON document; the reply is the content of the first choice in it.
-/

namespace LotSearch

structure ChatRequest where
  url : Url
  authorization : Text
  body : Json
deriving Repr, BEq

namespace ChatRequest

def endpoint (settings : ModelSettings) : Text :=
  Text.dropEndWhile (· == '/') settings.baseUrl ++ "/chat/completions".toList

def isHeaderChar (c : Char) : Bool := c == '\t' || (0x20 ≤ c.toNat && c.toNat != 0x7F)

def message (role : String) (content : Text) : Json :=
  .object (Json.Fields.ofList
    [("role".toList, .text role.toList), ("content".toList, .text content)])

/-- A temperature as a number; what is not finite has none. -/
def temperature (reading : FloatReading) : Json :=
  match reading.finite?.bind (Dyadic.convert? .double) with
  | some value => .number (.real value)
  | none => .null

def bodyFor (settings : ModelSettings) (system user : Text) : Json :=
  .object (Json.Fields.ofList
    [("model".toList, .text settings.model),
      ("messages".toList, .list [message "system" system, message "user" user]),
      ("temperature".toList, temperature settings.temperature),
      ("max_tokens".toList, .number (.whole settings.maxTokens))])

/-- The failure of a request that cannot be written. -/
def unwritable : ModelFailure := .transport "builder error".toList

/-- The request for a reply, unless there is no credential or the request cannot be written. -/
def build (settings : ModelSettings) (system user : Text) : Except ModelFailure ChatRequest :=
  match settings.apiKey with
  | none => .error .missingCredential
  | some key =>
      match Url.read? (endpoint settings) with
      | none => .error unwritable
      | some url =>
          if key.all isHeaderChar then
            .ok ⟨url, "Bearer ".toList ++ key, bodyFor settings system user⟩
          else .error unwritable

end ChatRequest

structure ChatResponse where
  status : Nat
  body : Text
deriving Repr, DecidableEq

namespace ChatResponse

/-- Whether an answer of this status is only a notice that the answer will follow. -/
def isInterim (status : Nat) : Bool := 100 ≤ status && status < 200 && status != 101

/-- Whether an answer of this status has no body, whatever follows it. -/
def isBodiless (status : Nat) : Bool := status == 101 || status == 204 || status == 304

def contents (r : ChatResponse) : Text := if isBodiless r.status then [] else r.body

/-- The first item of a list, and `null` for anything else. -/
def first : Json → Json
  | .list (v :: _) => v
  | _ => .null

/-- The value of a field, and `null` for anything else. -/
def field (name : String) : Json → Json
  | .object fields => (Json.Fields.get? name.toList fields).getD .null
  | _ => .null

/-- The content of the first choice of a document. -/
def content? (document : Json) : Option Text :=
  (field "content" (field "message" (first (field "choices" document)))).text?

/-- The reply in an answer; no answer at all is a failure of the connection. -/
def reply : Option ChatResponse → Except ModelFailure Text
  | none => .error (.transport "error sending request".toList)
  | some r =>
      if isInterim r.status then .error (.transport "error sending request".toList)
      else if r.status < 200 || 300 ≤ r.status then .error (.badStatus r.status r.contents)
      else
        match Json.read? Json.maxNesting r.contents with
        | none => .error (.malformedBody "error decoding response body".toList)
        | some document =>
            match content? document with
            | some content => .ok content
            | none => .error (.malformedBody "missing choices[0].message.content".toList)

end ChatResponse

end LotSearch

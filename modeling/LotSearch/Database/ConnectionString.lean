import LotSearch.Settings.Address
import LotSearch.Text.Blank
import LotSearch.Text.Percent

/-!
# How the database is named

The database is named by a URL or by a list of keywords with values.  Either form gives a list
of parameters, and each parameter has values that it accepts.
-/

namespace LotSearch

structure ConnectionParameter where
  keyword : Text
  value : Text
deriving Repr, DecidableEq

namespace ConnectionParameter

def isWord (words : List String) (value : Text) : Bool := words.any fun w => value == w.toList

def isInteger (value : Text) : Bool := (Text.integerWithin? minInt64 maxInt64 value).isSome

/-- Whether a text is a port; no text stands for the usual one. -/
def isPort (value : Text) : Bool := value.isEmpty || (ListenAddress.port? value).isSome

def isHostAddress (value : Text) : Bool :=
  (Host.parts? value).isSome || (Host.sixteen? value).isSome

def rules : List (String × (Text → Bool)) :=
  [("user", fun _ => true),
    ("password", fun _ => true),
    ("dbname", fun _ => true),
    ("options", fun _ => true),
    ("application_name", fun _ => true),
    ("host", fun _ => true),
    ("sslmode", isWord ["disable", "prefer", "require"]),
    ("sslnegotiation", isWord ["postgres", "direct"]),
    ("hostaddr", fun v => (Text.splitOn ',' v).all isHostAddress),
    ("port", fun v => (Text.splitOn ',' v).all isPort),
    ("connect_timeout", isInteger),
    ("tcp_user_timeout", isInteger),
    ("keepalives", fun v => (Text.naturalUpTo? maxUInt64.toNat v).isSome),
    ("keepalives_idle", isInteger),
    ("keepalives_interval", isInteger),
    ("keepalives_retries", fun v => (Text.naturalUpTo? Host.maxUInt32 v).isSome),
    ("target_session_attrs", isWord ["any", "read-write", "read-only"]),
    ("channel_binding", isWord ["disable", "prefer", "require"]),
    ("load_balance_hosts", isWord ["disable", "random"])]

/-- Whether the keyword is known and accepts the value. -/
def isValid (p : ConnectionParameter) : Bool :=
  rules.any fun (keyword, accepts) => p.keyword == keyword.toList && accepts p.value

end ConnectionParameter

namespace ConnectionString

/-! Keywords with values. -/

/-- The value up to the next blank, and what follows.  A backslash protects a character. -/
def simpleValue : Text → Text × Text
  | [] => ([], [])
  | ['\\'] => ([], [])
  | '\\' :: c :: t => let (value, rest) := simpleValue t; (c :: value, rest)
  | c :: t =>
      if isBlank c then ([], c :: t) else let (value, rest) := simpleValue t; (c :: value, rest)

/-- The value up to the closing quote, and what follows that. -/
def quotedValue? : Text → Option (Text × Text)
  | [] => none
  | ['\\'] => none
  | '\\' :: c :: t => (quotedValue? t).map fun (value, rest) => (c :: value, rest)
  | c :: t =>
      if c = '\'' then some ([], t)
      else (quotedValue? t).map fun (value, rest) => (c :: value, rest)

/-- Reads a value.  One without quotes is not empty. -/
def value? (t : Text) : Option (Text × Text) :=
  match t with
  | '\'' :: t => quotedValue? t
  | t => some (simpleValue t) |>.filter fun (value, _) => !value.isEmpty

/-- Reads at most `fuel` keywords with values.  The list ends where no keyword follows. -/
def keywords? : Nat → Text → Option (List ConnectionParameter)
  | 0, _ => some []
  | fuel + 1, t =>
      let t := Text.trimStart t
      let keyword := t.takeWhile fun c => !isBlank c && c != '='
      if keyword.isEmpty then some []
      else
        match Text.trimStart (t.dropWhile fun c => !isBlank c && c != '=') with
        | '=' :: t => do
            let (value, t) ← value? (Text.trimStart t)
            let parameters ← keywords? fuel t
            return ⟨keyword, value⟩ :: parameters
        | _ => none

/-! URLs. -/

/-- A parameter whose value is given with escapes. -/
def escaped? (keyword : String) (value : Text) : Option ConnectionParameter :=
  (Percent.decode? value).map fun value => ⟨keyword.toList, value⟩

/-- The parameters that credentials stand for.  Any octets may be in a password. -/
def credentials? (t : Text) : Option (List ConnectionParameter) := do
  let user ← escaped? "user" (t.takeWhile (· != ':'))
  match t.dropWhile (· != ':') with
  | _ :: password => return [user, ⟨"password".toList, Percent.decodeLossy password⟩]
  | [] => return [user]

/-- The parameter for a host.  Any octets may be in the path of a socket. -/
def host? (t : Text) : Option ConnectionParameter :=
  if (Percent.octets t).head? = some '/'.toNat then
    some ⟨"host".toList, Percent.decodeLossy t⟩
  else escaped? "host" t

/-- The port of a host that names none. -/
def usualPort : Text := "5432".toList

/-- The parameters of one host with perhaps a port; an IPv6 address is in brackets. -/
def hostWithPort? (t : Text) : Option (List ConnectionParameter) := do
  let (host, port) ←
    match t with
    | '[' :: t =>
        (Text.breakAt? [']'] t).bind fun (host, rest) =>
          match rest with
          | [] => some (host, usualPort)
          | ':' :: port => some (host, port)
          | _ => none
    | t => some ((Text.breakAt? [':'] t).getD (t, usualPort))
  let host ← host? host
  let port ← escaped? "port" port
  return [host, port]

def hosts? (t : Text) : Option (List ConnectionParameter) :=
  if t.isEmpty then some [] else ((Text.splitOn ',' t).mapM hostWithPort?).map List.flatten

def database? (t : Text) : Option (List ConnectionParameter) :=
  if t.isEmpty then some [] else (escaped? "dbname" t).map fun p => [p]

/-- Reads at most `fuel` parameters: each a keyword up to an equals sign, and a value up to an
ampersand. -/
def query? : Nat → Text → Option (List ConnectionParameter)
  | 0, _ => some []
  | fuel + 1, t =>
      if t.isEmpty then some []
      else do
        let (keyword, t) ← Text.breakAt? ['='] t
        let keyword ← Percent.decode? keyword
        let (value, t) := (Text.breakAt? ['&'] t).getD (t, [])
        let parameter ←
          if keyword = "host".toList then host? value
          else (Percent.decode? value).map (⟨keyword, ·⟩)
        let parameters ← query? fuel t
        return parameter :: parameters

/-- Reads a URL behind its scheme: credentials up to an at sign, hosts, a path and a query. -/
def url? (t : Text) : Option (List ConnectionParameter) := do
  let (credentials, t) ←
    match Text.breakAt? ['@'] t with
    | some (credentials, t) => (credentials? credentials).map fun ps => (ps, t)
    | none => some ([], t)
  let hosts ← hosts? (t.takeWhile fun c => c != '/' && c != '?')
  let t := t.dropWhile fun c => c != '/' && c != '?'
  let database ← database? ((t.takeWhile (· != '?')).drop 1)
  let t := (t.dropWhile (· != '?')).drop 1
  let parameters ← query? t.length t
  return credentials ++ hosts ++ database ++ parameters

def parameters? (t : Text) : Option (List ConnectionParameter) :=
  match (Text.after? "postgres://".toList t).or (Text.after? "postgresql://".toList t) with
  | some rest => url? rest
  | none => keywords? t.length t

def isValid (t : Text) : Bool :=
  match parameters? t with
  | some parameters => parameters.all ConnectionParameter.isValid
  | none => false

end ConnectionString

end LotSearch

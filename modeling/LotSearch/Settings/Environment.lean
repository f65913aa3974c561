import LotSearch.Number.Decimal
import LotSearch.Settings.Address
import LotSearch.Statement.Gate
import LotSearch.Text.Case

/-!
# Settings from the environment

The service is set up by environment variables.  Their names are compared in lower-case form, so
a setting that is given under two spellings is refused; the variables for certificates under
their common names are exact.
-/

namespace LotSearch

/-- The variables of the environment, each name once. -/
abbrev Environment := List (Text × Text)

structure ModelSettings where
  apiKey : Option Text
  baseUrl : Text
  model : Text
  timeoutSeconds : Nat
  temperature : FloatReading
  maxTokens : Nat
deriving Repr, DecidableEq

structure Settings where
  listenAddress : ListenAddress
  databaseUrl : Text
  maxPoolSize : Nat
  rootCertificate : Option Text
  clientCertificate : Option Text
  clientKey : Option Text
  maxRows : Int
  requestTimeoutSeconds : Nat
  model : ModelSettings
deriving Repr, DecidableEq

/-- Why the settings could not be taken from the environment. -/
inductive SettingsProblem where
  /-- A setting is given twice or has a value of a wrong form. -/
  | unreadable
  | invalidAddress
  /-- The name service knows the host and no address of it. -/
  | noAddress
  | invalidHostOrPort
  | noTarget
  | noDatabase
deriving Repr, DecidableEq

namespace SettingsProblem

def message : SettingsProblem → String
  | unreadable => "failed to parse PARCEL_* environment variables"
  | invalidAddress => "invalid PARCEL_LISTEN_ADDR value"
  | noAddress => "PARCEL_LISTEN_ADDR resolved to no addresses"
  | invalidHostOrPort => "invalid listen host/port combination"
  | noTarget => "listen address resolved to no targets"
  | noDatabase => "PARCEL_DATABASE_URL or DATABASE_URL must be set"

end SettingsProblem

namespace Environment

/-- The values of the variables whose lower-case name is the given one. -/
def values (env : Environment) (name : String) : List Text :=
  (env.filter fun (n, _) => Text.lower n == name.toList).map Prod.snd

/-- The value of a setting, unless it is given twice. -/
def setting (env : Environment) (name : String) : Except SettingsProblem (Option Text) :=
  match env.values name with
  | [] => .ok none
  | [value] => .ok (some value)
  | _ => .error .unreadable

/-- The value of a setting read in its form, or the given one when it is not set. -/
def settingAs {α : Type} (env : Environment) (name : String) (read? : Text → Option α)
    (default : α) : Except SettingsProblem α :=
  match env.setting name with
  | .error problem => .error problem
  | .ok none => .ok default
  | .ok (some value) =>
      match read? value with
      | some a => .ok a
      | none => .error .unreadable

def named? (env : Environment) (name : String) : Option Text :=
  (env.find? fun (n, _) => n == name.toList).map Prod.snd

end Environment

namespace ModelSettings

/-- The temperature of one tenth, as a value of 32 bits. -/
def defaultTemperature : FloatReading :=
  match Text.float? .single "0.1".toList with
  | some reading => reading
  | none => .notANumber

/-- The settings when none are given. -/
def default : ModelSettings where
  apiKey := none
  baseUrl := "https://api.openai.com/v1".toList
  model := "gpt-4o-mini".toList
  timeoutSeconds := 20
  temperature := defaultTemperature
  maxTokens := 1000

end ModelSettings

namespace Settings

/-- A credential without surrounding blanks; a blank one counts as missing. -/
def credential? (key : Option Text) : Option Text :=
  (key.map Text.trim).filter fun t => !t.isEmpty

/-- The first address that a text stands for.  The problems are those of a text that stands for
nothing and of one that stands for no address. -/
def firstAddress (resolve : Resolver) (t : Text) (invalid empty : SettingsProblem) :
    Except SettingsProblem ListenAddress :=
  match ListenAddress.allOf? resolve t with
  | none => .error invalid
  | some [] => .error empty
  | some (address :: _) => .ok address

/-- The address to listen on: given whole, or by a host and a port. -/
def listenAddressOf (resolve : Resolver) (address host : Option Text) (port : Option Nat) :
    Except SettingsProblem ListenAddress :=
  match address with
  | some address => firstAddress resolve address .invalidAddress .noAddress
  | none =>
      firstAddress resolve (host.getD "0.0.0.0".toList ++ ':' :: Text.ofNat (port.getD 8480))
        .invalidHostOrPort .noTarget

/-- The settings that an environment gives, on a machine with a name service. -/
def ofEnvironment (env : Environment) (resolve : Resolver := .ofTable []) :
    Except SettingsProblem Settings := do
  let address ← env.setting "parcel_listen_addr"
  let host ← env.setting "parcel_listen_host"
  let port ← env.settingAs "parcel_listen_port" (fun t => (ListenAddress.port? t).map some) none
  let parcelDatabase ← env.setting "parcel_database_url"
  let database ← env.setting "database_url"
  let maxPoolSize ← env.settingAs "parcel_max_pool_size" (Text.naturalUpTo? Host.maxUInt32) 10
  let rootCertificate ← env.setting "parcel_pg_ssl_root_cert"
  let clientCertificate ← env.setting "parcel_pg_ssl_cert"
  let clientKey ← env.setting "parcel_pg_ssl_key"
  let maxRows ← env.settingAs "parcel_max_rows" (Text.integerWithin? minInt64 maxInt64)
    Statement.rowCeiling
  let requestTimeout ← env.settingAs "parcel_request_timeout_secs"
    (Text.naturalUpTo? maxUInt64.toNat) 30
  let parcelKey ← env.setting "parcel_llm_api_key"
  let commonKey ← env.setting "openai_api_key"
  let baseUrl ← env.settingAs "parcel_llm_base_url" some ModelSettings.default.baseUrl
  let model ← env.settingAs "parcel_llm_model" some ModelSettings.default.model
  let modelTimeout ← env.settingAs "parcel_llm_timeout_secs"
    (Text.naturalUpTo? maxUInt64.toNat) ModelSettings.default.timeoutSeconds
  let temperature ← env.settingAs "parcel_llm_temperature" (Text.float? .single)
    ModelSettings.default.temperature
  let maxTokens ← env.settingAs "parcel_llm_max_tokens" (Text.naturalUpTo? Host.maxUInt32)
    ModelSettings.default.maxTokens
  let listenAddress ← listenAddressOf resolve address host port
  match parcelDatabase.or database with
  | none => .error .noDatabase
  | some databaseUrl =>
      return {
        listenAddress, databaseUrl
        maxPoolSize := max maxPoolSize 1
        rootCertificate := rootCertificate.or (env.named? "PGSSLROOTCERT")
        clientCertificate := clientCertificate.or (env.named? "PGSSLCERT")
        clientKey := clientKey.or (env.named? "PGSSLKEY")
        maxRows := Statement.clampRows maxRows
        requestTimeoutSeconds := max requestTimeout 1
        model := {
          apiKey := credential? (parcelKey.or commonKey)
          baseUrl, model, temperature
          timeoutSeconds := max modelTimeout 1
          maxTokens := max maxTokens 1 } }

end Settings

end LotSearch

import LotSearch.Certificate.KeyPair
import LotSearch.Database.ConnectionString
import LotSearch.Settings.Environment

/-!
# Starting the service

The service starts when its settings can be read, the database is named in a known form, the
files of a secure connection hold what they should, and its address can be listened on.  A
database that does not answer is no obstacle.  The addresses of names and the verdicts on
certificates and keys come from outside: the name service of the machine and the library for
secure connections are parameters.
-/

namespace LotSearch

/-- The files that can be opened, by their paths. -/
abbrev Files := Text → Option Text

/-- The verdicts of a library for secure connections on certificates and keys. -/
structure SecurityLibrary where
  /-- Whether a certificate can be a root of trust. -/
  acceptsRoot : Octets → Bool
  /-- Whether a chain of certificates can be shown with a private key. -/
  acceptsPair : List Octets → PemSection → Bool

/-- A library that knows certificates of the third version and keys on the curve P-256. -/
def SecurityLibrary.p256 : SecurityLibrary where
  acceptsRoot := Certificate.isWellFormed
  acceptsPair chain key := chain.head?.any fun certificate => keyBelongsTo certificate key

structure SecurityFiles where
  rootCertificate : Option Text
  clientCertificate : Option Text
  clientKey : Option Text
deriving Repr, DecidableEq

/-- Why the service did not start. -/
inductive StartupProblem where
  | settings (problem : SettingsProblem)
  | invalidDatabaseUrl
  | certificateFileMissing (path : Text)
  | certificateFileBroken (path : Text)
  | certificateFileEmpty (path : Text)
  | invalidRootCertificate (path : Text)
  | keyFileMissing (path : Text)
  | keyFileBroken (path : Text)
  | keyFileEmpty (path : Text)
  /-- Only one of certificate and key is given. -/
  | incompletePair
  | unusablePair
  | addressUnavailable
deriving Repr, DecidableEq

namespace StartupProblem

def message : StartupProblem → Text
  | settings problem => problem.message.toList
  | invalidDatabaseUrl => "invalid database URL".toList
  | certificateFileMissing path => "failed to open certificate file '".toList ++ path ++ ['\'']
  | certificateFileBroken path => "failed to parse certificates in '".toList ++ path ++ ['\'']
  | certificateFileEmpty path => '\'' :: path ++ "' contained no certificates".toList
  | invalidRootCertificate path => "invalid certificate in ".toList ++ path
  | keyFileMissing path => "failed to open key file '".toList ++ path ++ ['\'']
  | keyFileBroken path => "failed to parse private key in '".toList ++ path ++ ['\'']
  | keyFileEmpty path => '\'' :: path ++ "' contained no private keys".toList
  | incompletePair => "PGSSLCERT and PGSSLKEY must both be set (or neither)".toList
  | unusablePair => "failed to build client TLS config".toList
  | addressUnavailable => "Cannot assign requested address (os error 99)".toList

end StartupProblem

namespace Startup

def certificates (files : Files) (path : Text) : Except StartupProblem (List Octets) :=
  match (files path).map Pem.read with
  | none => .error (.certificateFileMissing path)
  | some file =>
      if file.isBroken then .error (.certificateFileBroken path)
      else
        match file.sections.filter PemSection.isCertificate with
        | [] => .error (.certificateFileEmpty path)
        | found => .ok (found.map PemSection.octets)

/-- The first private key in a file.  What follows it may be broken. -/
def privateKey (files : Files) (path : Text) : Except StartupProblem PemSection :=
  match (files path).map Pem.read with
  | none => .error (.keyFileMissing path)
  | some file =>
      match file.sections.find? PemSection.isPrivateKey with
      | some key => .ok key
      | none => if file.isBroken then .error (.keyFileBroken path) else .error (.keyFileEmpty path)

section Security

variable (library : SecurityLibrary) (files : Files)

/-- Checks the certificate of the service and its key, which are given together or not at all. -/
def checkPair : Option Text → Option Text → Except StartupProblem Unit
  | none, none => .ok ()
  | some certificate, some key => do
      let chain ← certificates files certificate
      let key ← privateKey files key
      if library.acceptsPair chain key then .ok () else .error .unusablePair
  | _, _ => .error .incompletePair

/-- Checks the files for a secure connection, which is made when there is a root certificate. -/
def checkSecurity (security : SecurityFiles) : Except StartupProblem Unit :=
  match security.rootCertificate with
  | none => .ok ()
  | some root => do
      let roots ← certificates files root
      if roots.all library.acceptsRoot then
        checkPair library files security.clientCertificate security.clientKey
      else .error (.invalidRootCertificate root)

end Security

/-- Checks how the database is to be reached. -/
def checkDatabase (files : Files) (url : Text) (security : SecurityFiles)
    (library : SecurityLibrary := .p256) : Except StartupProblem Unit :=
  if ConnectionString.isValid url then checkSecurity library files security
  else .error .invalidDatabaseUrl

def start (env : Environment) (files : Files) (canListen : ListenAddress → Bool)
    (resolve : Resolver := .ofTable []) (library : SecurityLibrary := .p256) :
    Except StartupProblem Settings :=
  match Settings.ofEnvironment env resolve with
  | .error problem => .error (.settings problem)
  | .ok settings => do
      checkDatabase files settings.databaseUrl
        ⟨settings.rootCertificate, settings.clientCertificate, settings.clientKey⟩ library
      if canListen settings.listenAddress then .ok settings else .error .addressUnavailable

end Startup

namespace Host

/-- Whether an address belongs to every machine: the loopback addresses, and those that stand
for all addresses of the machine. -/
def isEverywhere : Host → Bool
  | v4 (first :: rest) => first == 127 || (first :: rest).all (· == 0)
  | v4 [] => false
  | v6 groups _ =>
      (groups.dropLast.all (· == 0) && groups.getLast?.any (· ≤ 1))
        || (groups.take 6 == [0, 0, 0, 0, 0, 0xFFFF] && (groups.drop 6).head?.any (· / 256 == 127))

end Host

end LotSearch

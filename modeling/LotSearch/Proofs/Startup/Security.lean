import LotSearch.Startup
import Mathlib

/-!
# Files for a secure connection

A connection to the database is made secure by a root certificate, and the service may show a
certificate of its own with its key.  Once there is a root certificate, every file is looked at, and
one that is missing or cannot be used keeps the service from starting.  Without a root certificate
the other two files are not looked at, so nothing that is wrong with them does.  What can be used is
for the library of secure connections to say, and nothing is taken for granted of it.
-/

namespace LotSearch

namespace Startup

variable {library : SecurityLibrary} {files : Files} {security : SecurityFiles} {path : Text}
  {chain : List Octets} {key : PemSection}

/-! ## What files hold -/

/-- Whether a file can be opened and read to its end, and holds just the given certificates, at
least one. -/
def HoldsCertificates (files : Files) (path : Text) (chain : List Octets) : Prop :=
  ∃ t, files path = some t ∧ (Pem.read t).isBroken = false ∧ chain ≠ [] ∧
    chain = ((Pem.read t).sections.filter PemSection.isCertificate).map PemSection.octets

/-- Whether a file can be opened, and the given private key is the first that it holds. -/
def HoldsKey (files : Files) (path : Text) (key : PemSection) : Prop :=
  ∃ t, files path = some t ∧ (Pem.read t).sections.find? PemSection.isPrivateKey = some key

theorem certificates_eq_ok_iff :
    certificates files path = .ok chain ↔ HoldsCertificates files path chain := by
  rw [certificates, HoldsCertificates]
  cases files path with
  | none => simp
  | some t =>
      cases hbroken : (Pem.read t).isBroken with
      | true => simp [hbroken]
      | false =>
          simp only [Option.map_some, hbroken, Option.some.injEq, exists_eq_left',
            Bool.false_eq_true, if_false, true_and]
          cases (Pem.read t).sections.filter PemSection.isCertificate with
          | nil => simp +contextual
          | cons s rest =>
              rw [Except.ok.injEq]
              constructor
              · rintro rfl
                exact ⟨List.cons_ne_nil _ _, rfl⟩
              · exact fun h => h.2.symm

theorem privateKey_eq_ok_iff : privateKey files path = .ok key ↔ HoldsKey files path key := by
  rw [privateKey, HoldsKey]
  cases files path with
  | none => simp
  | some t =>
      cases hfound : (Pem.read t).sections.find? PemSection.isPrivateKey with
      | some found => simp [hfound]
      | none => cases hbroken : (Pem.read t).isBroken <;> simp [hfound, hbroken]

/-! ## What is wrong with the files -/

/-- Whether a chain of certificates can be used: there is a key that it can be shown with. -/
def UsableChain (library : SecurityLibrary) (chain : List Octets) : Prop :=
  ∃ key : PemSection, key.isPrivateKey = true ∧ library.acceptsPair chain key = true

/-- Whether a private key can be used: there is a chain that can be shown with it. -/
def UsableKey (library : SecurityLibrary) (key : PemSection) : Prop :=
  ∃ chain, library.acceptsPair chain key = true

/-- Whether something is wrong with the files that are configured: one is missing or holds nothing
that can be used, or only one of certificate and key is given. -/
inductive Faulty (library : SecurityLibrary) (files : Files) (security : SecurityFiles) : Prop
  | root {path : Text} (hpath : security.rootCertificate = some path)
      (hroots : ∀ chain, HoldsCertificates files path chain →
        ∃ c ∈ chain, library.acceptsRoot c = false)
  | certificate {path : Text} (hpath : security.clientCertificate = some path)
      (hchains : ∀ chain, HoldsCertificates files path chain → ¬ UsableChain library chain)
  | key {path : Text} (hpath : security.clientKey = some path)
      (hkeys : ∀ key, HoldsKey files path key → ¬ UsableKey library key)
  | certificateAlone (hcertificate : security.clientCertificate.isSome = true)
      (hkey : security.clientKey = none)
  | keyAlone (hkey : security.clientKey.isSome = true)
      (hcertificate : security.clientCertificate = none)

theorem exists_roots_of_not_faulty (h : ¬ Faulty library files security)
    (hpath : security.rootCertificate = some path) :
    ∃ chain, HoldsCertificates files path chain ∧ ∀ c ∈ chain, library.acceptsRoot c = true := by
  by_contra hnone
  refine h (.root hpath fun chain hchain => ?_)
  by_contra hall
  refine hnone ⟨chain, hchain, fun c hc => ?_⟩
  by_contra hrefused
  exact hall ⟨c, hc, by simpa using hrefused⟩

theorem exists_usableChain_of_not_faulty (h : ¬ Faulty library files security)
    (hpath : security.clientCertificate = some path) :
    ∃ chain, HoldsCertificates files path chain ∧ UsableChain library chain := by
  by_contra hnone
  exact h (.certificate hpath fun chain hchain husable => hnone ⟨chain, hchain, husable⟩)

theorem exists_usableKey_of_not_faulty (h : ¬ Faulty library files security)
    (hpath : security.clientKey = some path) :
    ∃ key, HoldsKey files path key ∧ UsableKey library key := by
  by_contra hnone
  exact h (.key hpath fun key hkey husable => hnone ⟨key, hkey, husable⟩)

/-- Whether certificate and key can both be used, but not with each other. -/
inductive Unrelated (library : SecurityLibrary) (files : Files) (security : SecurityFiles) : Prop
  | intro {certificatePath keyPath : Text} {chain : List Octets} {key : PemSection}
      (hcertificate : security.clientCertificate = some certificatePath)
      (hkey : security.clientKey = some keyPath)
      (hchain : HoldsCertificates files certificatePath chain)
      (husable : UsableChain library chain)
      (hheld : HoldsKey files keyPath key)
      (hkeyUsable : UsableKey library key)
      (hunrelated : library.acceptsPair chain key = false)

/-- What is accepted as a pair can be used. -/
theorem usable_of_acceptsPair (hkey : HoldsKey files path key)
    (h : library.acceptsPair chain key = true) :
    UsableChain library chain ∧ UsableKey library key := by
  obtain ⟨t, -, hfound⟩ := hkey
  exact ⟨⟨key, List.find?_some hfound, h⟩, chain, h⟩

theorem checkPair_eq_ok_iff {certificate key : Text} :
    checkPair library files (some certificate) (some key) = .ok () ↔
      ∃ chain k, HoldsCertificates files certificate chain ∧ HoldsKey files key k ∧
        library.acceptsPair chain k = true := by
  simp only [← certificates_eq_ok_iff, ← privateKey_eq_ok_iff, checkPair]
  cases hchain : certificates files certificate with
  | error problem => simp [bind, Except.bind]
  | ok chain =>
      cases hkey : privateKey files key with
      | error problem => simp [bind, Except.bind]
      | ok k => simp [bind, Except.bind]

theorem checkSecurity_eq_ok_iff {root : Text} (hroot : security.rootCertificate = some root) :
    checkSecurity library files security = .ok () ↔
      (∃ chain, HoldsCertificates files root chain ∧
          ∀ c ∈ chain, library.acceptsRoot c = true) ∧
        checkPair library files security.clientCertificate security.clientKey = .ok () := by
  simp only [← certificates_eq_ok_iff, ← List.all_eq_true, checkSecurity, hroot]
  cases hchain : certificates files root with
  | error problem => simp [bind, Except.bind]
  | ok chain =>
      simp only [bind, Except.bind, Except.ok.injEq, exists_eq_left']
      cases chain.all library.acceptsRoot <;> simp

/-- The two files of a pair are looked at as soon as one of them is configured. -/
theorem checkPair_eq_ok_of_not_faulty (h : ¬ Faulty library files security)
    (hrelated : ¬ Unrelated library files security) :
    checkPair library files security.clientCertificate security.clientKey = .ok () := by
  cases hcertificate : security.clientCertificate with
  | none =>
      cases hkey : security.clientKey with
      | none => rfl
      | some key => exact absurd (.keyAlone (by simp [hkey]) hcertificate) h
  | some certificate =>
      cases hkey : security.clientKey with
      | none => exact absurd (.certificateAlone (by simp [hcertificate]) hkey) h
      | some key =>
          obtain ⟨chain, hchain, husable⟩ := exists_usableChain_of_not_faulty h hcertificate
          obtain ⟨k, hk, hkeyUsable⟩ := exists_usableKey_of_not_faulty h hkey
          refine checkPair_eq_ok_iff.2 ⟨chain, k, hchain, hk, ?_⟩
          by_contra hunrelated
          exact hrelated
            (.intro hcertificate hkey hchain husable hk hkeyUsable (by simpa using hunrelated))

theorem checkSecurity_of_not_faulty (h : ¬ Faulty library files security)
    (hrelated : ¬ Unrelated library files security) :
    checkSecurity library files security = .ok () := by
  cases hroot : security.rootCertificate with
  | none => simp only [checkSecurity, hroot]
  | some root =>
      exact (checkSecurity_eq_ok_iff hroot).2
        ⟨exists_roots_of_not_faulty h hroot, checkPair_eq_ok_of_not_faulty h hrelated⟩

/-- With a root certificate nothing that is wrong is passed over. -/
theorem not_faulty_of_checkSecurity {root : Text} (hroot : security.rootCertificate = some root)
    (h : checkSecurity library files security = .ok ()) : ¬ Faulty library files security := by
  obtain ⟨⟨roots, hroots, hall⟩, hpair⟩ := (checkSecurity_eq_ok_iff hroot).1 h
  intro hfaulty
  cases hfaulty with
  | root hpath hrefused =>
      obtain rfl := Option.some.inj (hroot.symm.trans hpath)
      obtain ⟨c, hc, hfalse⟩ := hrefused roots hroots
      rw [hall c hc] at hfalse
      cases hfalse
  | certificate hpath hchains =>
      cases hkey : security.clientKey with
      | none => simp [hpath, hkey, checkPair] at hpair
      | some key =>
          rw [hpath, hkey] at hpair
          obtain ⟨chain, k, hchain, hk, haccepted⟩ := checkPair_eq_ok_iff.1 hpair
          exact hchains chain hchain (usable_of_acceptsPair hk haccepted).1
  | key hpath hkeys =>
      cases hcertificate : security.clientCertificate with
      | none => simp [hpath, hcertificate, checkPair] at hpair
      | some certificate =>
          rw [hpath, hcertificate] at hpair
          obtain ⟨chain, k, -, hk, haccepted⟩ := checkPair_eq_ok_iff.1 hpair
          exact hkeys k hk (usable_of_acceptsPair hk haccepted).2
  | certificateAlone hcertificate hkey =>
      obtain ⟨certificate, hpath⟩ := Option.isSome_iff_exists.1 hcertificate
      simp [hpath, hkey, checkPair] at hpair
  | keyAlone hkey hcertificate =>
      obtain ⟨key, hpath⟩ := Option.isSome_iff_exists.1 hkey
      simp [hpath, hcertificate, checkPair] at hpair

/-! ## Connecting -/

theorem checkDatabase_of_isValid {url : Text} (hurl : ConnectionString.isValid url = true)
    (library : SecurityLibrary) (files : Files) (security : SecurityFiles) :
    checkDatabase files url security library = checkSecurity library files security := if_pos hurl

/-- With every library, faulty files keep the service from starting, unless there is no root
certificate; files without fault never do, if certificate and key belong together. -/
theorem checkDatabase_reports_iff {url : Text} (hurl : ConnectionString.isValid url = true)
    (library : SecurityLibrary) (files : Files) (security : SecurityFiles) :
    ((Faulty library files security →
          ∃ problem, checkDatabase files url security library = .error problem) ↔
        (security.rootCertificate = none → ¬ Faulty library files security)) ∧
      (¬ Faulty library files security → ¬ Unrelated library files security →
        checkDatabase files url security library = .ok ()) := by
  rw [checkDatabase_of_isValid hurl]
  refine ⟨⟨fun hreported hroot hfaulty => ?_, fun hlooked hfaulty => ?_⟩,
    checkSecurity_of_not_faulty⟩
  · obtain ⟨problem, hproblem⟩ := hreported hfaulty
    rw [checkSecurity, hroot] at hproblem
    cases hproblem
  · cases hroot : security.rootCertificate with
    | none => exact absurd hfaulty (hlooked hroot)
    | some root =>
        cases hresult : checkSecurity library files security with
        | error problem => exact ⟨problem, rfl⟩
        | ok u => exact absurd hfaulty (not_faulty_of_checkSecurity hroot hresult)

/-- A certificate without a key, with files that cannot be opened. -/
def certificateOnly (root : Option Text) : SecurityFiles := ⟨root, some "client.pem".toList, none⟩

theorem faulty_certificateOnly (library : SecurityLibrary) (files : Files) (root : Option Text) :
    Faulty library files (certificateOnly root) := .certificateAlone rfl rfl

theorem checkDatabase_reports_root :
    ConnectionString.isValid "postgres://localhost/parcels".toList = true ∧
      ∃ problem, checkDatabase (fun _ => none) "postgres://localhost/parcels".toList
        (certificateOnly (some "root.pem".toList)) .p256 = .error problem := by
  have hurl : ConnectionString.isValid "postgres://localhost/parcels".toList = true := by
    decide +kernel
  refine ⟨hurl, ?_⟩
  exact (checkDatabase_reports_iff hurl _ _ _).1.2 (fun hroot => by cases hroot)
    (faulty_certificateOnly _ _ _)

/-- Without a root certificate a certificate is passed over that has no key and cannot be opened. -/
theorem not_checkDatabase_reports_alone :
    ConnectionString.isValid "postgres://localhost/parcels".toList = true ∧
      Faulty .p256 (fun _ => none) (certificateOnly none) ∧
      checkDatabase (fun _ => none) "postgres://localhost/parcels".toList
        (certificateOnly none) .p256 = .ok () := by
  have hurl : ConnectionString.isValid "postgres://localhost/parcels".toList = true := by
    decide +kernel
  refine ⟨hurl, faulty_certificateOnly _ _ _, ?_⟩
  rw [checkDatabase_of_isValid hurl]
  rfl

end Startup

end LotSearch

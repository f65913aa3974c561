import LotSearch.Certificate.Der
import LotSearch.Certificate.Pem

/-!
# Certificates and private keys

A certificate carries a public key.  A private key on the curve P-256 is written on its own or
inside an envelope that names the curve, and carries its public half.  A certificate and a key
belong together when they carry the same public key.  Keys of other kinds and certificates before
the third version are left to other libraries.
-/

namespace LotSearch

namespace Certificate

/-- Whether an element is an extension of a certificate: a name, perhaps a mark for a critical
one, and a value. -/
def isExtension (e : DerElement) : Bool :=
  e.tag == Der.sequence &&
    match Der.elements? e.octets with
    | some parts =>
        [[Der.objectName, Der.octetString],
          [Der.objectName, Der.truthValue, Der.octetString]].contains (parts.map DerElement.tag)
    | none => false

def isExtensionList (e : DerElement) : Bool :=
  e.tag == Der.numbered 3 &&
    ((Der.inside? Der.sequence e.octets).any fun es => !es.isEmpty && es.all isExtension)

/-- Whether the elements behind the public key are well formed: names of issuer and subject by
number, and extensions. -/
def areExtras : List DerElement → Bool
  | [] => true
  | e :: es =>
      if e.tag == 0x81 || e.tag == 0x82 then areExtras es
      else isExtensionList e && es.isEmpty

def isThirdVersion (e : DerElement) : Bool :=
  e.tag == Der.numbered 0 && Der.elements? e.octets == some [⟨Der.integer, [2]⟩]

/-- The public key in the octets of a certificate, when these are well formed: the signed part,
the name of the algorithm again, and the signature. -/
def publicKey? (octets : Octets) : Option Octets :=
  match Der.inside? Der.sequence octets with
  | some [signed, algorithm, signature] =>
      if signed.tag = Der.sequence && signature.tag = Der.bitString then
        match Der.elements? signed.octets with
        | some (version :: serial :: again :: issuer :: validity :: subject :: key :: extras) =>
            if isThirdVersion version && serial.tag = Der.integer && again = algorithm
                && [algorithm, issuer, validity, subject, key].all (·.tag == Der.sequence)
                && areExtras extras then
              some key.octets
            else none
        | _ => none
      else none
  | _ => none

/-- Whether octets are a certificate. -/
def isWellFormed (octets : Octets) : Bool := (publicKey? octets).isSome

end Certificate

namespace PrivateKey

/-- The name of keys on elliptic curves, as an element. -/
def ellipticName : Octets := [0x06, 0x07, 0x2A, 0x86, 0x48, 0xCE, 0x3D, 0x02, 0x01]

/-- The name of the curve P-256, as an element. -/
def curveName : Octets := [0x06, 0x08, 0x2A, 0x86, 0x48, 0xCE, 0x3D, 0x03, 0x01, 0x07]

/-- The element in front of the key when the curve is named. -/
def curveElement : DerElement := ⟨Der.numbered 0, curveName⟩

/-- The element that says that a key is on the curve. -/
def algorithmElement : DerElement := ⟨Der.sequence, ellipticName ++ curveName⟩

def versionElement (n : Nat) : DerElement := ⟨Der.integer, [n]⟩

/-- What a certificate carries for the public half `point` of a key on the curve. -/
def carried (point : Octets) : Octets :=
  let name := ellipticName ++ curveName
  Der.sequence :: name.length :: name ++ Der.bitString :: point.length :: point

/-- The public half of a key written on its own: a version, the secret number, perhaps the name
of the curve, and the public half, a point of two coordinates. -/
def point? (octets : Octets) : Option Octets :=
  match Der.inside? Der.sequence octets with
  | some (version :: secret :: parts) =>
      let parts := match parts with
        | e :: es => if e = curveElement then es else parts
        | [] => parts
      match parts with
      | [half] =>
          if version = versionElement 1 && secret.tag = Der.octetString
              && secret.octets.length = 32 && half.tag = Der.numbered 1 then
            match Der.elements? half.octets with
            | some [e] =>
                if e.tag = Der.bitString && e.octets.length = 66
                    && e.octets.take 2 = [0x00, 0x04] then some e.octets
                else none
            | _ => none
          else none
      | _ => none
  | _ => none

/-- The public half of a key in an envelope: a version, the name of the curve, and the key. -/
def envelopedPoint? (octets : Octets) : Option Octets :=
  match Der.inside? Der.sequence octets with
  | some [version, algorithm, key] =>
      if version = versionElement 0 && algorithm = algorithmElement
          && key.tag = Der.octetString then point? key.octets
      else none
  | _ => none

def publicKey? (s : PemSection) : Option Octets :=
  if s.label = "PRIVATE KEY".toList then (envelopedPoint? s.octets).map carried
  else if s.label = "EC PRIVATE KEY".toList then (point? s.octets).map carried
  else none

end PrivateKey

def keyBelongsTo (certificate : Octets) (key : PemSection) : Bool :=
  match Certificate.publicKey? certificate, PrivateKey.publicKey? key with
  | some a, some b => a == b
  | _, _ => false

end LotSearch

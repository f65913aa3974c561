import LotSearch.Text.Base64Url

/-!
# Sections of text for binary data

A file of certificates and keys has sections between two lines with the same label, and each
section holds octets in Base64.  Text outside of sections is ignored, and so are sections of
unknown labels.  Reading stops at the first section that is broken.
-/

namespace LotSearch

structure PemSection where
  label : Text
  octets : Octets
deriving Repr, DecidableEq

namespace PemSection

def isCertificate (s : PemSection) : Bool := s.label == "CERTIFICATE".toList

def isPrivateKey (s : PemSection) : Bool :=
  ["RSA PRIVATE KEY", "PRIVATE KEY", "EC PRIVATE KEY"].any fun l => s.label == l.toList

end PemSection

/-- The sections up to the first broken one, and whether there is a broken one. -/
structure PemFile where
  sections : List PemSection
  isBroken : Bool
deriving Repr, DecidableEq

namespace Pem

def labels : List String :=
  ["CERTIFICATE", "PUBLIC KEY", "RSA PRIVATE KEY", "PRIVATE KEY", "EC PRIVATE KEY", "X509 CRL",
    "CERTIFICATE REQUEST", "ECHCONFIG"]

/-- Whether a character may stand anywhere in Base64. -/
def isSpace (c : Char) : Bool := c == ' ' || c == '\t' || c == '\n' || c == '\r'

/-- The value of a character of the common alphabet of Base64. -/
def sextet? (c : Char) : Option Nat :=
  if c = '+' then some 62
  else if c = '/' then some 63
  else if c = '-' || c = '_' then none
  else Base64Url.valueOf? c

/-- The octets of groups of four characters, the last of which may end in one or two equals
signs. -/
def decode? : Text → Option Octets
  | [] => some []
  | [a, b, '=', '='] => do
      let a ← sextet? a
      let b ← sextet? b
      return [a * 4 + b / 16]
  | [a, b, c, '='] => do
      let a ← sextet? a
      let b ← sextet? b
      let c ← sextet? c
      return [a * 4 + b / 16, b % 16 * 16 + c / 4]
  | a :: b :: c :: d :: t => do
      let a ← sextet? a
      let b ← sextet? b
      let c ← sextet? c
      let d ← sextet? d
      let octets ← decode? t
      return (a * 4 + b / 16) :: (b % 16 * 16 + c / 4) :: (c % 4 * 64 + d) :: octets
  | _ => none

def lines (t : Text) : List Text :=
  Text.splitOn '\n' (t.map fun c => if c = '\r' then '\n' else c)

/-- What a line means for the section it stands in. -/
inductive Line where
  | opens (label : Text)
  /-- A line that opens no section although it begins like one that does. -/
  | broken
  | other

def meaning (line : Text) : Line :=
  match Text.after? "-----BEGIN ".toList line with
  | none => .other
  | some rest =>
      let label := Text.dropEndWhile (fun c => c == '-' || c == ' ') rest
      let marks := rest.drop label.length
      if marks.count '-' = 5 then .opens (label ++ marks.takeWhile (· == ' ')) else .broken

/-- Reads lines outside of a section, or inside of one with a label and the lines so far. -/
def readLines : Option (Text × Text) → List Text → PemFile
  | none, [] => ⟨[], false⟩
  | some _, [] => ⟨[], true⟩
  | inside, line :: lines =>
      match meaning line, inside with
      | .broken, _ => ⟨[], true⟩
      | .opens label, none => readLines (some (label, [])) lines
      | .opens label, some (_, body) => readLines (some (label, body)) lines
      | .other, none => readLines none lines
      | .other, some (label, body) =>
          if (Text.after? ("-----END ".toList ++ label ++ "-----".toList) line).isSome then
            if labels.any fun l => label == l.toList then
              match decode? (body.filter fun c => !isSpace c) with
              | none => ⟨[], true⟩
              | some octets =>
                  let more := readLines none lines
                  ⟨⟨label, octets⟩ :: more.sections, more.isBroken⟩
            else readLines none lines
          else readLines (some (label, body ++ line)) lines

def read (t : Text) : PemFile := readLines none (lines t)

end Pem

end LotSearch

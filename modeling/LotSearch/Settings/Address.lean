import LotSearch.Json.Printer
import LotSearch.Json.Reader
import LotSearch.Text.Digit

/-!
# Addresses to listen on

A listening address is an IP address with a port.  It is written as one text, with brackets
around an IPv6 address, or put together from a host and a port.  Any other host is looked up by
the name service of the machine, and a name can belong to several addresses; to a name service an
IPv6 address without brackets is a host as well, and so is an IPv4 address with fewer, octal or
hexadecimal parts.
-/

namespace LotSearch

inductive Host where
  | v4 (parts : List Nat)
  /-- Eight groups of sixteen bits and a scope. -/
  | v6 (groups : List Nat) (scope : Nat)
deriving Repr, DecidableEq

structure ListenAddress where
  host : Host
  port : Nat
deriving Repr, DecidableEq

namespace Host

def isHexDigit (c : Char) : Bool := (Json.hexValue? c).isSome

def hexValue (t : Text) : Nat := t.foldl (fun n c => 16 * n + (Json.hexValue? c).getD 0) 0

/-- Reads a part of an IPv4 address: up to 255, in at most three digits without leading zero. -/
def part? (t : Text) : Option Nat :=
  if 3 < t.length || (1 < t.length && t.head? = some '0') then none
  else (Text.natural? t).filter fun n => n ≤ 255

def parts? (t : Text) : Option (List Nat) :=
  match (Text.splitOn '.' t).mapM part? with
  | some [a, b, c, d] => some [a, b, c, d]
  | _ => none

/-- Reads a group of an IPv6 address: one to four hexadecimal digits. -/
def group? (t : Text) : Option Nat :=
  if t.isEmpty || 4 < t.length || !t.all isHexDigit then none else some (hexValue t)

/-- The groups of an IPv6 address that stand for the four parts of an IPv4 address. -/
def groupsOfParts : List Nat → List Nat
  | [a, b, c, d] => [a * 256 + b, c * 256 + d]
  | _ => []

/-- Reads groups with colons between them; with `lastV4` the last two may be written as an IPv4
address. -/
def groups? (lastV4 : Bool) : List Text → Option (List Nat)
  | [] => some []
  | [last] =>
      match group? last with
      | some g => some [g]
      | none => if lastV4 then (parts? last).map groupsOfParts else none
  | piece :: pieces => do
      let g ← group? piece
      let gs ← groups? lastV4 pieces
      return g :: gs

/-- Reads groups, where no text stands for no groups. -/
def sideGroups? (lastV4 : Bool) (t : Text) : Option (List Nat) :=
  if t.isEmpty then some [] else groups? lastV4 (Text.splitOn ':' t)

/-- Reads an IPv6 address.  Two colons stand for the missing groups, at least one. -/
def sixteen? (t : Text) : Option (List Nat) :=
  match Text.breakAt? "::".toList t with
  | none => (sideGroups? true t).filter fun gs => gs.length = 8
  | some (left, right) => do
      let left ← sideGroups? false left
      let right ← sideGroups? true right
      if left.length + right.length ≤ 7 then
        return left ++ List.replicate (8 - left.length - right.length) 0 ++ right
      else none

def maxUInt32 : Nat := 4294967295

/-- Reads an IPv6 address with perhaps a scope behind a percent sign. -/
def scoped? (t : Text) : Option Host :=
  match Text.breakAt? ['%'] t with
  | none => (sixteen? t).map (v6 · 0)
  | some (address, scope) => do
      let groups ← sixteen? address
      let scope ← (Text.natural? scope).filter fun n => n ≤ maxUInt32
      return v6 groups scope

/-- Reads a number with its base marked: hexadecimal behind `0x`, octal behind a zero, else
decimal. -/
def looseNumber? : Text → Option Nat
  | ['0'] => some 0
  | '0' :: c :: t =>
      if c = 'x' || c = 'X' then
        if !t.isEmpty && t.all isHexDigit then some (hexValue t) else none
      else if (c :: t).all fun d => '0' ≤ d && d ≤ '7' then
        some ((c :: t).foldl (fun n d => 8 * n + digitValue d) 0)
      else none
  | t => Text.natural? t

/-- Reads an IPv4 address of one to four numbers, of which the last fills the remaining octets.
-/
def looseParts? (t : Text) : Option (List Nat) := do
  let numbers ← (Text.splitOn '.' t).mapM looseNumber?
  let last ← numbers.getLast?
  let first := numbers.dropLast
  if first.length ≤ 3 && first.all (· ≤ 255) && last < Nat.pow 256 (4 - first.length) then
    let octet (i : Nat) : Nat := last / Nat.pow 256 i % 256
    return first ++ ([3, 2, 1, 0].drop first.length).map octet
  else none

def literal? (t : Text) : Option Host :=
  match looseParts? t with
  | some parts => some (v4 parts)
  | none => scoped? t

end Host

/-- The name service of the machine: the addresses of a host in the order in which they are
preferred, unless it cannot be resolved. -/
abbrev Resolver := Text → Option (List Host)

namespace Resolver

/-- A name service that knows addresses and the names of a table. -/
def ofTable (table : List (Text × Host)) : Resolver := fun name =>
  match Host.literal? name with
  | some host => some [host]
  | none =>
      match (table.filter fun (n, _) => n == name).map Prod.snd with
      | [] => none
      | hosts => some hosts

end Resolver

namespace Host

/-! Writing. -/

def hexText (n : Nat) : Text := Nat.toDigits 16 n

def zeroRun (groups : List Nat) : Nat := (groups.takeWhile (· == 0)).length

/-- The start of the first longest run of at least two zeros. -/
def longestZeros? (groups : List Nat) : Option (Nat × Nat) :=
  let runs := (List.range groups.length).map fun i => (i, zeroRun (groups.drop i))
  let longest := runs.foldl (fun n (_, run) => max n run) 0
  if longest < 2 then none else runs.find? fun (_, run) => run == longest

def writeGroups (groups : List Nat) : Text := Text.join [':'] (groups.map hexText)

def writeParts (parts : List Nat) : Text := Text.join ['.'] (parts.map Text.ofNat)

/-- An IPv6 address with its first longest run of zeros left out; one that stands for an IPv4
address ends in that. -/
def writeSixteen (groups : List Nat) : Text :=
  match groups with
  | [0, 0, 0, 0, 0, 0xFFFF, high, low] =>
      "::ffff:".toList ++ writeParts [high / 256, high % 256, low / 256, low % 256]
  | groups =>
      match longestZeros? groups with
      | none => writeGroups groups
      | some (start, run) =>
          writeGroups (groups.take start) ++ "::".toList ++ writeGroups (groups.drop (start + run))

end Host

namespace ListenAddress

/-- Reads a port with perhaps a plus sign. -/
def port? (t : Text) : Option Nat := Text.naturalUpTo? 65535 t

/-- Reads a port without a sign. -/
def digitsPort? (t : Text) : Option Nat := (Text.natural? t).filter fun n => n ≤ 65535

def fourParts? (t : Text) : Option ListenAddress :=
  (Text.breakAt? [':'] t).bind fun (host, port) => do
    let parts ← Host.parts? host
    let port ← digitsPort? port
    return ⟨.v4 parts, port⟩

def bracketed? (t : Text) : Option ListenAddress :=
  match t with
  | '[' :: t =>
      (Text.breakAt? "]:".toList t).bind fun (host, port) => do
        let host ← Host.scoped? host
        let port ← digitsPort? port
        return ⟨host, port⟩
  | _ => none

/-- Reads an IP address with a port: an IPv4 address in four parts, or an IPv6 address in
brackets. -/
def literal? (t : Text) : Option ListenAddress := (fourParts? t).or (bracketed? t)

/-- The addresses that a text stands for: the one that is written in it, or those of a host with
the port behind the last colon. -/
def allOf? (resolve : Resolver) (t : Text) : Option (List ListenAddress) :=
  match literal? t with
  | some address => some [address]
  | none =>
      (Text.breakAtLast? ':' t).bind fun (name, port) => do
        let port ← port? port
        let hosts ← resolve name
        return hosts.map fun host => ⟨host, port⟩

def write (a : ListenAddress) : Text :=
  (match a.host with
    | .v4 parts => Host.writeParts parts
    | .v6 groups scope =>
        '[' :: Host.writeSixteen groups
          ++ (if scope = 0 then [] else '%' :: Text.ofNat scope) ++ [']'])
    ++ ':' :: Text.ofNat a.port

end ListenAddress

end LotSearch

import FtpIntake.Net.Ipv6

/-!
# Endpoints

An IP address of either version, and an address with a port. The text of an IPv6 endpoint has its address in
brackets. Reading wants the whole text: nothing may be left over.

Two addresses are equal if their versions and all their bytes are. An IPv4 address and the IPv6 address that embeds it
are different ones.
-/

namespace FtpIntake

open Text

/-- An address of either version of the Internet protocol. -/
inductive Ip where
  | v4 (address : Ipv4)
  | v6 (address : Ipv6)
  deriving DecidableEq

namespace Ip

/-- Whether the address is an IPv4 address. -/
def isIpv4 : Ip → Bool
  | .v4 _ => true
  | .v6 _ => false

/-- Writes an address. -/
def chars : Ip → List Char
  | .v4 address => address.chars
  | .v6 address => address.chars

protected def toString (ip : Ip) : String :=
  String.ofList ip.chars

instance : ToString Ip := ⟨Ip.toString⟩

/-- Reads an address off the front: an IPv4 address if there is one, and an IPv6 address otherwise. -/
def read (s : List Char) : Option (Ip × List Char) :=
  match Ipv4.read s with
  | some (address, rest) => some (.v4 address, rest)
  | none => (Ipv6.read s).map fun (address, rest) => (.v6 address, rest)

/-- Reads a whole text as an address. -/
def ofChars? (s : List Char) : Option Ip :=
  match read s with
  | some (ip, []) => some ip
  | _ => none

end Ip

/-- An address and a port. -/
structure Endpoint where
  ip : Ip
  port : UInt16
  deriving DecidableEq

namespace Endpoint

/-- Writes an endpoint. -/
def chars (e : Endpoint) : List Char :=
  match e.ip with
  | .v4 address => address.chars ++ ':' :: numeral e.port.toNat
  | .v6 address => '[' :: address.chars ++ ']' :: ':' :: numeral e.port.toNat

protected def toString (e : Endpoint) : String :=
  String.ofList e.chars

instance : ToString Endpoint := ⟨Endpoint.toString⟩

/-- Reads a colon and a port. Leading zeros are harmless. -/
def readPort (s : List Char) : Option (UInt16 × List Char) := do
  let s ← expect ':' s
  let port ← readDigits (s.takeWhile Char.isDigit) >>= atMost 65535
  return (UInt16.ofNat port, s.dropWhile Char.isDigit)

/-- Reads an endpoint with an IPv4 address off the front. -/
def readV4 (s : List Char) : Option (Endpoint × List Char) := do
  let (address, s) ← Ipv4.read s
  let (port, s) ← readPort s
  return (⟨.v4 address, port⟩, s)

/-- Reads an endpoint with an IPv6 address, which stands in brackets, off the front. -/
def readV6 (s : List Char) : Option (Endpoint × List Char) := do
  let s ← expect '[' s
  let (address, s) ← Ipv6.read s
  let s ← expect ']' s
  let (port, s) ← readPort s
  return (⟨.v6 address, port⟩, s)

/-- Reads a whole text as an endpoint. -/
def ofString? (s : String) : Option Endpoint :=
  match (readV4 s.toList).orElse (fun _ => readV6 s.toList) with
  | some (e, []) => some e
  | _ => none

end Endpoint

end FtpIntake

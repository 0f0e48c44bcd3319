import FtpIntake.Net.Endpoint
import FtpIntake.Text.Blank

/-!
# Addresses in commands and replies

The three notations in which control connections speak of data endpoints. `PORT` gives six decimal bytes, four
of the address and two of the port, with commas between them; the reply to `PASV` gives the same six bytes in
parentheses. `EPRT` gives a protocol number, an address and a port, each between two copies of a delimiter that
the client chose.
-/

namespace FtpIntake.DataAddress

open Text

/-- The port with the given upper and lower byte. -/
def portOfBytes (upper lower : Nat) : UInt16 :=
  UInt16.ofNat (256 * upper + lower)

/-- Reads the argument of `PORT`. White space around it and around each number is ignored. -/
def readPort (argument : List Char) : Option Endpoint :=
  match (splitAt ',' (trim argument)).mapM fun field => readUnsigned 255 (trim field) with
  | some [a, b, c, d, upper, lower] =>
    some ⟨.v4 ⟨UInt8.ofNat a, UInt8.ofNat b, UInt8.ofNat c, UInt8.ofNat d⟩, portOfBytes upper lower⟩
  | _ => none

/-- Whether the protocol number of `EPRT` is the one of the address: 1 for IPv4 and 2 for IPv6. -/
def protocolMatches (protocol : List Char) : Ip → Bool
  | .v4 _ => protocol == ['1']
  | .v6 _ => protocol == ['2']

/-- Reads the argument of `EPRT`. White space around it is ignored; its first character is the delimiter. -/
def readExtended (argument : List Char) : Option Endpoint :=
  match trim argument with
  | [] => none
  | delimiter :: rest =>
    -- the delimiter itself is left in front, so the first piece is empty
    match splitAt delimiter (delimiter :: rest) with
    | [[], protocol, address, port, []] => do
      let ip ← Ip.ofChars? address
      guard (protocolMatches protocol ip)
      let port ← readUnsigned 65535 port
      return ⟨ip, UInt16.ofNat port⟩
    | _ => none

/-- The six bytes of an IPv4 endpoint with commas between them, as `PORT` writes them. -/
def portChars (ip : Ipv4) (port : UInt16) : List Char :=
  [','].intercalate
    [numeral ip.a.toNat, numeral ip.b.toNat, numeral ip.c.toNat, numeral ip.d.toNat,
      numeral (port.toNat / 256), numeral (port.toNat % 256)]

/-- An endpoint as `EPRT` writes it, with the given delimiter. -/
def extendedChars (delimiter : Char) (e : Endpoint) : List Char :=
  let protocol := if e.ip.isIpv4 then '1' else '2'
  [delimiter, protocol, delimiter] ++ e.ip.chars ++ delimiter :: numeral e.port.toNat ++ [delimiter]

/-- An endpoint as the reply to `PASV` writes it. There is no such form for IPv6. -/
def passiveText? (e : Endpoint) : Option String :=
  match e.ip with
  | .v4 ip => some (String.ofList ('(' :: portChars ip e.port ++ [')']))
  | .v6 _ => none

end FtpIntake.DataAddress

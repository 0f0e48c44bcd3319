import FtpIntake.Text.Numeral
import FtpIntake.Text.Pieces

/-!
# IPv4 addresses

Four octets, written in decimal with dots between them. Reading is strict: an octet has one to three digits, no
leading zero unless it is zero itself, and is at most 255.

A reader of this library takes the characters that are left and gives back what it read together with the
characters after it, or `none`. It reads as many digits as there are; a numeral that is too long is no numeral,
and is not cut.
-/

namespace FtpIntake

open Text

/-- An IPv4 address, its octets from left to right. -/
structure Ipv4 where
  a : UInt8
  b : UInt8
  c : UInt8
  d : UInt8
  deriving DecidableEq

namespace Ipv4

/-- The address of the own host. -/
def loopback : Ipv4 := ⟨127, 0, 0, 1⟩

/-- The digits of an octet: one to three of them, the first of which is a zero only if it is alone. -/
def isOctet (digits : List Char) : Bool :=
  !digits.isEmpty && digits.length ≤ 3 && (digits.length == 1 || digits.head? != some '0')

/-- Reads one octet. -/
def readOctet (s : List Char) : Option (UInt8 × List Char) :=
  let digits := s.takeWhile Char.isDigit
  let value := Nat.ofDigitChars 10 digits 0
  if isOctet digits && value ≤ 255 then some (UInt8.ofNat value, s.dropWhile Char.isDigit) else none

/-- Reads an address. -/
def read (s : List Char) : Option (Ipv4 × List Char) := do
  let (a, s) ← readOctet s
  let s ← expect '.' s
  let (b, s) ← readOctet s
  let s ← expect '.' s
  let (c, s) ← readOctet s
  let s ← expect '.' s
  let (d, s) ← readOctet s
  return (⟨a, b, c, d⟩, s)

/-- Writes an address. -/
def chars (ip : Ipv4) : List Char :=
  numeral ip.a.toNat ++ '.' :: numeral ip.b.toNat ++ '.' :: numeral ip.c.toNat ++
    '.' :: numeral ip.d.toNat

end Ipv4

end FtpIntake

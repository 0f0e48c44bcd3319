import FtpIntake.Net.Ipv4

/-!
# IPv6 addresses

Eight groups of 16 bits. In text, groups are hexadecimal with colons between them, two colons stand for one or
more groups of zeros, and the last two groups may be written as an IPv4 address. An address is written in its
recommended form: lower case, no leading zeros, the first of the longest runs of at least two zero groups
shortened, and the IPv4 form for the addresses that embed an IPv4 address behind `::ffff`.
-/

namespace FtpIntake

open Text

/-- An IPv6 address, its groups from left to right. -/
structure Ipv6 where
  groups : List UInt16
  length_groups : groups.length = 8
  deriving DecidableEq

namespace Ipv6

/-- The address with the given groups, if there are eight. -/
def ofGroups? (groups : List UInt16) : Option Ipv6 :=
  if h : groups.length = 8 then some ⟨groups, h⟩ else none

/-! ## Reading -/

/-- Reads one group: one to four hexadecimal digits. -/
def readGroup (s : List Char) : Option (UInt16 × List Char) :=
  let digits := s.takeWhile (isDigitOf 16)
  if 1 ≤ digits.length ∧ digits.length ≤ 4 then
    some (UInt16.ofNat (digitsValue 16 digits), s.dropWhile (isDigitOf 16))
  else none

/-- The two groups that an IPv4 address fills. -/
def groupsOfIpv4 (ip : Ipv4) : List UInt16 :=
  [UInt16.ofNat (256 * ip.a.toNat + ip.b.toNat), UInt16.ofNat (256 * ip.c.toNat + ip.d.toNat)]

/-- Takes off the colon between two groups; there is none before the first. -/
def afterColon (first : Bool) (s : List Char) : Option (List Char) :=
  if first then some s else expect ':' s

/-- A run of groups, whether it ended in an embedded IPv4 address, and the characters after it. -/
structure GroupRun where
  groups : List UInt16
  embedded : Bool
  rest : List Char

/--
Reads at most `room` groups, each but the first after a colon, until none follows. Where there is room for two
groups an IPv4 address may stand for them, and ends the run.
-/
def readGroups : (room : Nat) → (first : Bool) → List Char → GroupRun
  | 0, _, s => ⟨[], false, s⟩
  | room + 1, first, s =>
    -- the IPv4 form is tried first, since its first octet could be read as a group
    match if 1 ≤ room then (afterColon first s).bind Ipv4.read else none with
    | some (ip, rest) => ⟨groupsOfIpv4 ip, true, rest⟩
    | none =>
      match (afterColon first s).bind readGroup with
      | none => ⟨[], false, s⟩
      | some (group, rest) =>
        let run := readGroups room false rest
        ⟨group :: run.groups, run.embedded, run.rest⟩

/--
Reads an address: eight groups, or fewer on both sides of two colons. The colons stand for at least one group,
and no IPv4 address may stand before them.
-/
def read (s : List Char) : Option (Ipv6 × List Char) :=
  let front := readGroups 8 true s
  if front.groups.length = 8 then
    (ofGroups? front.groups).map fun ip => (ip, front.rest)
  else if front.embedded then none
  else
    match front.rest with
    | ':' :: ':' :: rest =>
      -- at most seven groups in all, so that the colons stand for one at least
      let back := readGroups (7 - front.groups.length) true rest
      let zeros := List.replicate (8 - front.groups.length - back.groups.length) 0
      (ofGroups? (front.groups ++ zeros ++ back.groups)).map fun ip => (ip, back.rest)
    | _ => none

/-! ## Writing -/

/-- A stretch of zero groups: where it starts and how long it is. -/
structure ZeroRun where
  start : Nat
  length : Nat

/--
The first of the longest stretches of zeros, given the index of the next group, the stretch that ends just
before it, and the longest one so far.
-/
def longestZeroRun (index : Nat) (current longest : ZeroRun) : List UInt16 → ZeroRun
  | [] => longest
  | group :: groups =>
    if group = 0 then
      -- a stretch that is only as long as the longest does not replace it: the first one counts
      let current : ZeroRun := ⟨if current.length = 0 then index else current.start, current.length + 1⟩
      longestZeroRun (index + 1) current (if longest.length < current.length then current else longest) groups
    else longestZeroRun (index + 1) ⟨0, 0⟩ longest groups

/-- Groups in hexadecimal with colons between them. -/
def groupChars (groups : List UInt16) : List Char :=
  [':'].intercalate (groups.map fun group => Nat.toDigits 16 group.toNat)

/-- The IPv4 address embedded behind `::ffff`, if there is one. -/
def embeddedIpv4? (ip : Ipv6) : Option Ipv4 :=
  match ip.groups with
  | [0, 0, 0, 0, 0, 0xFFFF, high, low] =>
    some ⟨UInt8.ofNat (high.toNat / 256), UInt8.ofNat (high.toNat % 256),
      UInt8.ofNat (low.toNat / 256), UInt8.ofNat (low.toNat % 256)⟩
  | _ => none

/-- Writes an address. -/
def chars (ip : Ipv6) : List Char :=
  match ip.embeddedIpv4? with
  | some ipv4 => "::ffff:".toList ++ ipv4.chars
  | none =>
    let zeros := longestZeroRun 0 ⟨0, 0⟩ ⟨0, 0⟩ ip.groups
    -- a single zero is not worth two colons
    if 1 < zeros.length then
      groupChars (ip.groups.take zeros.start) ++ "::".toList ++
        groupChars (ip.groups.drop (zeros.start + zeros.length))
    else groupChars ip.groups

end Ipv6

end FtpIntake

import FtpIntake.DataChannel
import FtpIntake.Proofs.Net.DataAddress
import FtpIntake.Proofs.Net.Ipv6

/-!
# The targets that clients give

`PORT` gives the endpoint of a client as six bytes, and `EPRT` as three fields with a delimiter of the client's choice.
This module says which arguments are such an endpoint, and which one it is; all others are refused, and the refusal
quotes them.

* **`DataAddress.SpellsBytes`** is the form of the argument of `PORT`, and **`DataAddress.readPort_eq_some_iff`** says
  that nothing else is read.
* **`DataAddress.SpellsEndpoint`** and **`DataAddress.readExtended_eq_some_iff`** are the same for `EPRT`, and
  **`DataAddress.readExtended_extendedChars`** is the round trip of an endpoint.
* **`DataChannel.portTarget_laws`** has both directions for `PORT`, and with them the way of an address to a client in a
  reply to `PASV` and back in a `PORT`.

Both readers are strict in what they accept and lenient in white space, each in its own way. The two specifications
are therefore stated of the trimmed argument, field by field, and with the numbers as texts.
-/

namespace FtpIntake

namespace DataAddress

open Text

/-! ## Six bytes

The reader trims every field, takes signs and leading zeros, and compares with 255 in the end. The specification says
the same of the argument as a text. -/

/-- The argument has a field for each byte, with commas between the fields. A field is a numeral of the byte, with white
space around it or none. -/
def SpellsBytes (argument : List Char) (bytes : List UInt8) : Prop :=
  ∃ fields, trim argument = [','].intercalate fields ∧ (∀ field ∈ fields, ',' ∉ field) ∧
    List.Forall₂ (fun field byte => IsUnsigned 255 (trim field) byte.toNat) fields bytes

/-- The numbers in the fields of an argument. -/
def readFields (argument : List Char) : Option (List Nat) :=
  (splitAt ',' (trim argument)).mapM fun field => readUnsigned 255 (trim field)

/-- The fields of an argument are read just if it spells the bytes: numerals below 256 with commas between them. -/
theorem readFields_eq_some_iff {argument : List Char} {byte : UInt8} {bytes : List UInt8} :
    readFields argument = some ((byte :: bytes).map UInt8.toNat) ↔ SpellsBytes argument (byte :: bytes) := by
  rw [readFields, mapM_eq_some_iff, List.forall₂_map_right_iff]
  simp only [readUnsigned_eq_some_iff]
  constructor
  · intro h
    cases hfields : splitAt ',' (trim argument) with
    | nil => exact absurd hfields (splitAt_ne_nil _ _)
    | cons field fields =>
      obtain ⟨htext, hcommas⟩ := splitAt_eq_cons_iff.1 hfields
      exact ⟨field :: fields, htext, hcommas, hfields ▸ h⟩
  · rintro ⟨fields, htext, hcommas, h⟩
    cases fields with
    | nil => cases h
    | cons field fields =>
      rw [splitAt_eq_cons_iff.2 ⟨htext, hcommas⟩]
      exact h

/-- Every number that is read off a field is a byte. -/
theorem exists_bytes_of_readFields {argument : List Char} {numbers : List Nat}
    (h : readFields argument = some numbers) : ∃ bytes : List UInt8, numbers = bytes.map UInt8.toNat := by
  have hfields := mapM_eq_some_iff.1 h
  clear h
  generalize splitAt ',' (trim argument) = fields at hfields
  induction hfields with
  | nil => exact ⟨[], rfl⟩
  | @cons field n fields numbers hread _ ih =>
    obtain ⟨bytes, rfl⟩ := ih
    have hn : (UInt8.ofNat n).toNat = n := UInt8.toNat_ofNat_of_lt (Nat.lt_succ_of_le (le_of_readUnsigned hread))
    exact ⟨UInt8.ofNat n :: bytes, by rw [List.map_cons, hn]⟩

/-- An endpoint is made of six fields, and of no other number of fields. -/
theorem readPort_eq (argument : List Char) :
    readPort argument = match readFields argument with
      | some [a, b, c, d, upper, lower] =>
        some ⟨.v4 ⟨UInt8.ofNat a, UInt8.ofNat b, UInt8.ofNat c, UInt8.ofNat d⟩, portOfBytes upper lower⟩
      | _ => none :=
  rfl

/-- The two bytes of a port are its upper and its lower half. -/
theorem toNat_portOfBytes (upper lower : UInt8) :
    (portOfBytes upper.toNat lower.toNat).toNat = 256 * upper.toNat + lower.toNat := by
  have hupper := upper.toNat_lt
  have hlower := lower.toNat_lt
  exact UInt16.toNat_ofNat_of_lt (by show _ < 65536; omega)

/-- **Six bytes are read, and nothing else.** -/
theorem readPort_eq_some_iff {argument : List Char} {e : Endpoint} :
    readPort argument = some e ↔
      ∃ a b c d upper lower : UInt8, SpellsBytes argument [a, b, c, d, upper, lower] ∧
        e.ip = .v4 ⟨a, b, c, d⟩ ∧ e.port.toNat = 256 * upper.toNat + lower.toNat := by
  rw [readPort_eq]
  constructor
  · intro h
    split at h
    · next x₁ x₂ x₃ x₄ x₅ x₆ hread =>
      obtain ⟨bytes, hbytes⟩ := exists_bytes_of_readFields hread
      -- six numbers below 256 are six bytes
      match bytes, hbytes with
      | [a, b, c, d, upper, lower], hbytes =>
        rw [hbytes] at hread
        simp only [List.map_cons, List.map_nil, List.cons.injEq, and_true] at hbytes
        obtain ⟨rfl, rfl, rfl, rfl, rfl, rfl⟩ := hbytes
        obtain rfl := Option.some.inj h
        exact ⟨a, b, c, d, upper, lower, readFields_eq_some_iff.1 hread, by simp, toNat_portOfBytes upper lower⟩
    · cases h
  · rintro ⟨a, b, c, d, upper, lower, hspells, hip, hport⟩
    rw [readFields_eq_some_iff.2 hspells]
    obtain ⟨ip, port⟩ := e
    obtain rfl : ip = .v4 ⟨a, b, c, d⟩ := hip
    have hport' : port = portOfBytes upper.toNat lower.toNat :=
      UInt16.toNat_inj.1 (hport.trans (toNat_portOfBytes upper lower).symm)
    simp [hport']

/-! ## Three fields between delimiters

The delimiter is the first character, whatever that is, so it can be a digit. It separates the fields wherever it
stands, and the fields must not have it in them. -/

/-- The argument has three fields between copies of its first character, which is in none of them: the version of the
address, the address, and a numeral of the port. -/
def SpellsEndpoint (argument : List Char) (e : Endpoint) : Prop :=
  ∃ delimiter protocol address port,
    trim argument = delimiter :: protocol ++ delimiter :: address ++ delimiter :: port ++ [delimiter] ∧
      delimiter ∉ protocol ++ address ++ port ∧
      (protocol = ['1'] ∧ e.ip.isIpv4 = true ∨ protocol = ['2'] ∧ e.ip.isIpv4 = false) ∧
      Ip.ofChars? address = some e.ip ∧ IsUnsigned 65535 port e.port.toNat

/-- The first field is 1 for IPv4 and 2 for IPv6. -/
theorem protocolMatches_iff {protocol : List Char} {ip : Ip} :
    protocolMatches protocol ip = true ↔
      (protocol = ['1'] ∧ ip.isIpv4 = true ∨ protocol = ['2'] ∧ ip.isIpv4 = false) := by
  cases ip <;> simp [protocolMatches, Ip.isIpv4]

/-- The fields of a text that begins with its delimiter. -/
theorem splitAt_eq_fields_iff {delimiter : Char} {s protocol address port : List Char} :
    splitAt delimiter s = [[], protocol, address, port, []] ↔
      s = delimiter :: protocol ++ delimiter :: address ++ delimiter :: port ++ [delimiter] ∧
        delimiter ∉ protocol ++ address ++ port := by
  rw [splitAt_eq_cons_iff]
  simp [List.intercalate_cons_cons]

/-- What is read off the three fields. -/
def readFieldsOf (protocol address port : List Char) : Option Endpoint := do
  let ip ← Ip.ofChars? address
  guard (protocolMatches protocol ip)
  let port ← readUnsigned 65535 port
  return ⟨ip, UInt16.ofNat port⟩

/-- Three fields make an endpoint if the address is of the kind that the first one says, and the port is one. -/
theorem readFieldsOf_eq_some_iff {protocol address port : List Char} {e : Endpoint} :
    readFieldsOf protocol address port = some e ↔
      protocolMatches protocol e.ip = true ∧ Ip.ofChars? address = some e.ip ∧ IsUnsigned 65535 port e.port.toNat := by
  rw [← readUnsigned_eq_some_iff]
  constructor
  · intro h
    obtain ⟨ip, hip, h⟩ := Option.bind_eq_some_iff.1 h
    obtain ⟨_, hguard, h⟩ := Option.bind_eq_some_iff.1 h
    obtain ⟨n, hn, he⟩ := Option.bind_eq_some_iff.1 h
    obtain rfl := Option.some.inj he
    have hport : (UInt16.ofNat n).toNat = n := UInt16.toNat_ofNat_of_lt (Nat.lt_succ_of_le (le_of_readUnsigned hn))
    refine ⟨Decidable.byContradiction fun hno => ?_, hip, hn.trans (congrArg some hport.symm)⟩
    have hnone : guard (protocolMatches protocol ip) = (none : Option Unit) := if_neg hno
    rw [hnone] at hguard
    cases hguard
  · rintro ⟨hprotocol, hip, hport⟩
    have hguard : guard (protocolMatches protocol e.ip) = some () := if_pos hprotocol
    rw [readFieldsOf, hip]
    show (guard (protocolMatches protocol e.ip) >>= fun _ =>
      readUnsigned 65535 port >>= fun port => some (⟨e.ip, UInt16.ofNat port⟩ : Endpoint)) = some e
    rw [hguard, hport]
    show some (⟨e.ip, UInt16.ofNat e.port.toNat⟩ : Endpoint) = some e
    rw [UInt16.ofNat_toNat]

/-- **Three such fields are read, and nothing else.** -/
theorem readExtended_eq_some_iff {argument : List Char} {e : Endpoint} :
    readExtended argument = some e ↔ SpellsEndpoint argument e := by
  unfold readExtended SpellsEndpoint
  -- the first character is the delimiter, whatever it is
  cases htrim : trim argument with
  | nil => simp
  | cons delimiter rest =>
    constructor
    · intro h
      dsimp only at h
      split at h
      · next protocol address port hfields =>
        obtain ⟨hprotocol, hip, hport⟩ := readFieldsOf_eq_some_iff.1 h
        obtain ⟨htext, hnot⟩ := splitAt_eq_fields_iff.1 hfields
        exact ⟨delimiter, protocol, address, port, htext, hnot, protocolMatches_iff.1 hprotocol, hip, hport⟩
      · cases h
    · rintro ⟨first, protocol, address, port, htext, hnot, hprotocol, hip, hport⟩
      obtain rfl : delimiter = first := (List.cons.inj htext).1
      dsimp only
      rw [splitAt_eq_fields_iff.2 ⟨htext, hnot⟩]
      exact readFieldsOf_eq_some_iff.2 ⟨protocolMatches_iff.2 hprotocol, hip, hport⟩

/-- The version of an address, as `EPRT` writes it. -/
def version (ip : Ip) : Char :=
  if ip.isIpv4 then '1' else '2'

/-- **An endpoint that was written is read again**, with any delimiter that is no white space and not in what is
written. -/
theorem readExtended_extendedChars {delimiter : Char} {e : Endpoint} (hblank : isBlank delimiter = false)
    (hnot : delimiter ∉ version e.ip :: (e.ip.chars ++ numeral e.port.toNat)) :
    readExtended (extendedChars delimiter e) = some e := by
  have hends : extendedChars delimiter e =
      delimiter :: version e.ip :: delimiter :: (e.ip.chars ++ delimiter :: numeral e.port.toNat) ++ [delimiter] := by
    simp [extendedChars, version]
  -- the text begins and ends with the delimiter, which is not white space
  have htrimmed : IsTrimmed (extendedChars delimiter e) := by
    rw [isTrimmed_iff, hends, List.getLast?_concat]
    simp [hblank]
  have hport : e.port.toNat ≤ 65535 := Nat.le_of_lt_succ e.port.toNat_lt
  refine readExtended_eq_some_iff.2 ⟨delimiter, [version e.ip], e.ip.chars, numeral e.port.toNat, ?_, ?_, ?_, ?_, ?_⟩
  · rw [htrimmed.trim_eq, hends]
    simp
  · simpa using hnot
  · cases e.ip <;> simp [version, Ip.isIpv4]
  · exact Ip.ofChars?_chars e.ip
  · exact readUnsigned_eq_some_iff.1 (readUnsigned_numeral hport)

end DataAddress

namespace DataChannel

open DataAddress

/-- The target of `PORT` is the endpoint that was read. -/
theorem portTarget_eq_ok_iff {argument : String} {e : Endpoint} :
    portTarget argument = .ok e ↔ readPort argument.toList = some e := by
  unfold portTarget
  cases readPort argument.toList <;> simp

/-- What cannot be read is refused with the argument. -/
theorem portTarget_eq_error {argument : String} (h : ∀ e, portTarget argument ≠ .ok e) :
    portTarget argument = .error (.badArgument argument) := by
  unfold portTarget at h ⊢
  split
  · next target hread => simp [hread] at h
  · rfl

/--
**What `PORT` takes for an address.** An argument is accepted just if, trimmed, it has six fields with commas between
them, each of which, trimmed, is a numeral of a byte. The first four bytes are the address, and the port has the fifth
as its upper and the sixth as its lower byte. Every other argument is refused, and quoted as it came.

An IPv4 endpoint is written in parentheses in a reply, and what stands between them is accepted as that endpoint. So
every endpoint that has been accepted can be written and is accepted again.
-/
theorem portTarget_laws (argument : String) :
    (∀ e, portTarget argument = .ok e ↔
      ∃ a b c d upper lower : UInt8, SpellsBytes argument.toList [a, b, c, d, upper, lower] ∧
        e.ip = .v4 ⟨a, b, c, d⟩ ∧ e.port.toNat = 256 * upper.toNat + lower.toNat) ∧
      ((¬∃ a b c d upper lower, SpellsBytes argument.toList [a, b, c, d, upper, lower]) →
        portTarget argument = .error (.badArgument argument)) ∧
      (∀ ip port, ∃ text, passiveText? ⟨.v4 ip, port⟩ = some ("(" ++ text ++ ")") ∧
        portTarget text = .ok ⟨.v4 ip, port⟩) ∧
      ∀ e, portTarget argument = .ok e →
        ∃ text, passiveText? e = some ("(" ++ text ++ ")") ∧ portTarget text = .ok e := by
  have haccepted (e : Endpoint) : portTarget argument = .ok e ↔ _ := portTarget_eq_ok_iff.trans readPort_eq_some_iff
  -- what `PASV` writes between its brackets is an argument of `PORT`
  have hwritten (ip : Ipv4) (port : UInt16) : ∃ text, passiveText? ⟨.v4 ip, port⟩ = some ("(" ++ text ++ ")") ∧
      portTarget text = .ok ⟨.v4 ip, port⟩ := by
    refine ⟨String.ofList (portChars ip port), ?_, portTarget_eq_ok_iff.2 ?_⟩
    · simp [passiveText?, ← String.toList_inj]
    · rw [String.toList_ofList]
      exact readPort_portChars ip port
  refine ⟨haccepted, fun hnot => portTarget_eq_error fun e he => hnot ?_, hwritten, fun e he => ?_⟩
  · obtain ⟨a, b, c, d, upper, lower, hspells, -⟩ := (haccepted e).1 he
    exact ⟨a, b, c, d, upper, lower, hspells⟩
  · obtain ⟨a, b, c, d, upper, lower, -, hip, -⟩ := (haccepted e).1 he
    obtain ⟨ip, port⟩ := e
    obtain rfl : ip = .v4 ⟨a, b, c, d⟩ := hip
    exact hwritten _ port

/-- Signs, leading zeros and white space do not matter; one field too many does. -/
theorem portTarget_laws_of_signs :
    SpellsBytes " 127,+0, 0,001,195 ,80".toList [127, 0, 0, 1, 195, 80] ∧
      portTarget " 127,+0, 0,001,195 ,80" = .ok ⟨.v4 ⟨127, 0, 0, 1⟩, 50000⟩ ∧
      (∃ text, passiveText? ⟨.v4 ⟨127, 0, 0, 1⟩, 50000⟩ = some ("(" ++ text ++ ")") ∧
        portTarget text = .ok ⟨.v4 ⟨127, 0, 0, 1⟩, 50000⟩) ∧
      (¬∃ a b c d upper lower, SpellsBytes "127,0,0,1,195,80,1".toList [a, b, c, d, upper, lower]) ∧
      portTarget "127,0,0,1,195,80,1" = .error (.badArgument "127,0,0,1,195,80,1") := by
  have hspells : SpellsBytes " 127,+0, 0,001,195 ,80".toList [127, 0, 0, 1, 195, 80] :=
    readFields_eq_some_iff.1 (by decide)
  have hok : portTarget " 127,+0, 0,001,195 ,80" = .ok ⟨.v4 ⟨127, 0, 0, 1⟩, 50000⟩ :=
    ((portTarget_laws _).1 _).2 ⟨127, 0, 0, 1, 195, 80, hspells, rfl, rfl⟩
  have hseven : ¬∃ a b c d upper lower, SpellsBytes "127,0,0,1,195,80,1".toList [a, b, c, d, upper, lower] := by
    rintro ⟨a, b, c, d, upper, lower, h⟩
    have hread := readFields_eq_some_iff.2 h
    rw [show readFields "127,0,0,1,195,80,1".toList = some [127, 0, 0, 1, 195, 80, 1] by decide] at hread
    simp at hread
  exact ⟨hspells, hok, (portTarget_laws _).2.2.2 _ hok, hseven, (portTarget_laws _).2.1 hseven⟩

/-- The target of `EPRT` is the endpoint that is spelled. -/
theorem extendedTarget_eq_ok_iff {argument : String} {e : Endpoint} :
    extendedTarget argument = .ok e ↔ SpellsEndpoint argument.toList e := by
  rw [← readExtended_eq_some_iff]
  unfold extendedTarget
  cases readExtended argument.toList <;> simp

/-- What spells no endpoint is refused with the argument. -/
theorem extendedTarget_eq_error {argument : String} (h : ∀ e, extendedTarget argument ≠ .ok e) :
    extendedTarget argument = .error (.badArgument argument) := by
  unfold extendedTarget at h ⊢
  split
  · next target hread => simp [hread] at h
  · rfl

end DataChannel

end FtpIntake

import FtpIntake.Net.Endpoint
import FtpIntake.Proofs.Net.Ipv4

/-!
# Addresses as texts

An address has many texts, and is written in one of them. This module says that the text that is written is read as the
same address.

For IPv6 the reader has a choice at each group: where there is room for two groups it tries an IPv4 address first. It
never finds one in groups that were written, since no dot follows their digits (`Ipv6.read4_hex_append`). So the groups
in front of the two colons are read one by one, and so are those behind them, and the zeros fill the gap, because the
stretch that was left out was one of zeros (`Ipv6.allZero_longestZeroRun`).

* **`Ipv6.read_chars`** and **`Ip.ofChars?_chars`** are the round trips.
-/

namespace FtpIntake

namespace Ipv6

open Text

/-! ## One group

A group is read up to where its digits end, so what follows it must not go on with a digit. A dot must not follow
either, because the digits before it would then be those of an IPv4 address. -/

/-- The hexadecimal digits of a group. -/
def hex (group : UInt16) : List Char :=
  Nat.toDigits 16 group.toNat

/-- A hexadecimal digit is read as it was written. -/
theorem digit?_digitChar : ∀ n < 16, digit? n.digitChar = some n := by
  decide

/-- Induction on the number, which loses its last digit. -/
theorem digitsValue_toDigits (n : Nat) :
    digitsValue 16 (Nat.toDigits 16 n) = n ∧ ∀ c ∈ Nat.toDigits 16 n, isDigitOf 16 c = true := by
  have hdigit (m : Nat) (hm : m < 16) : isDigitOf 16 m.digitChar = true := by
    simp [isDigitOf, digit?_digitChar m hm, hm]
  induction n using Nat.strongRecOn with
  | ind n ih =>
    -- one digit, or the digits of the quotient and one more
    by_cases hn : n < 16
    · rw [Nat.toDigits_of_lt_base hn]
      simp [digitsValue, digit?_digitChar n hn, hdigit n hn]
    · rw [Nat.toDigits_of_base_le (by omega) (by omega)]
      obtain ⟨hvalue, hdigits⟩ := ih (n / 16) (by omega)
      have hlast : n % 16 < 16 := Nat.mod_lt n (by omega)
      constructor
      · have hfold : digitsValue 16 (Nat.toDigits 16 (n / 16) ++ [(n % 16).digitChar]) =
            16 * digitsValue 16 (Nat.toDigits 16 (n / 16)) + n % 16 := by
          simp [digitsValue, digit?_digitChar _ hlast]
        rw [hfold, hvalue]
        omega
      · simpa [or_imp, forall_and, hdigit _ hlast] using hdigits

/-- A group is written in hexadecimal digits. -/
theorem isDigitOf_of_mem_hex {group : UInt16} {c : Char} (h : c ∈ hex group) : isDigitOf 16 c = true :=
  (digitsValue_toDigits group.toNat).2 c h

/-- A text does not go on with another digit or with a dot. -/
def EndsGroup (rest : List Char) : Prop :=
  ∀ c ∈ rest.head?, c = ':'

/-- A group is read up to where its digits end. -/
theorem readGroup_hex_append (group : UInt16) {rest : List Char} (h : EndsGroup rest) :
    readGroup (hex group ++ rest) = some (group, rest) := by
  have hlt : group.toNat < 65536 := group.toNat_lt
  have hlong : 1 ≤ (hex group).length := Nat.length_toDigits_pos
  have hshort : (hex group).length ≤ 4 := (Nat.length_toDigits_le_iff (by omega) (by omega)).2 hlt
  have hvalue : digitsValue 16 (hex group) = group.toNat := (digitsValue_toDigits group.toNat).1
  have hrest : ∀ c ∈ rest.head?, isDigitOf 16 c = false := fun c hc => by rw [h c hc]; rfl
  have hdigits : ∀ c ∈ hex group, isDigitOf 16 c = true := fun _ => isDigitOf_of_mem_hex
  obtain ⟨htake, hdrop⟩ := takeWhile_dropWhile_append hdigits hrest
  simp [readGroup, htake, hdrop, hlong, hshort, hvalue]

/-- Groups that were written are not the beginning of an IPv4 address. -/
theorem read4_hex_append (group : UInt16) {rest : List Char} (h : EndsGroup rest) :
    Ipv4.read (hex group ++ rest) = none := by
  refine Ipv4.read_eq_none ?_
  rw [List.dropWhile_append]
  split
  · cases rest with
    | nil => simp
    | cons c rest => simp [show c = ':' from h c rfl]
  · next hleft =>
    -- what is left of the group begins with one of its digits, and no digit is a dot
    cases hdrop : (hex group).dropWhile Char.isDigit with
    | nil => simp [hdrop] at hleft
    | cons c cs =>
      have hc : c ∈ hex group := (List.dropWhile_sublist _).subset (hdrop ▸ List.mem_cons_self)
      rintro hdot
      obtain rfl : c = '.' := by simpa using hdot
      exact absurd (isDigitOf_of_mem_hex hc) (by decide)

/-! ## Groups in a row

The reader takes groups as long as there is room and a colon with digits behind it. Where two colons follow it stops.
-/

/-- Groups behind others, each with the colon in front of it. -/
def moreGroups (groups : List UInt16) : List Char :=
  groups.flatMap fun group => ':' :: hex group

/-- The groups are written one after the other, each but the first with a colon in front. -/
theorem groupChars_cons (group : UInt16) (groups : List UInt16) :
    groupChars (group :: groups) = hex group ++ moreGroups groups := by
  induction groups generalizing group with
  | nil => simp [groupChars, moreGroups, hex]
  | cons next groups ih =>
    have hnext := ih next
    simp only [groupChars, List.map_cons, List.intercalate_cons_cons] at hnext ⊢
    rw [List.append_assoc, hnext]
    simp [moreGroups, hex]

/-- A run of groups ends with the text, or at two colons. -/
def EndsRun (rest : List Char) : Prop :=
  rest = [] ∨ ∃ more, rest = ':' :: ':' :: more

/-- What ends all groups ends the last one. -/
theorem EndsRun.endsGroup {rest : List Char} (h : EndsRun rest) : EndsGroup rest := by
  rcases h with rfl | ⟨more, rfl⟩ <;> simp [EndsGroup]

/-- What follows a group is a colon, or the end of all groups. -/
theorem endsGroup_moreGroups (groups : List UInt16) {rest : List Char} (h : EndsRun rest) :
    EndsGroup (moreGroups groups ++ rest) := by
  cases groups with
  | nil => exact h.endsGroup
  | cons group groups => simp [EndsGroup, moreGroups]

/-- Where a run ends no group is read. -/
theorem readGroups_of_endsRun (room : Nat) (first : Bool) {rest : List Char} (h : EndsRun rest) :
    readGroups room first rest = ⟨[], false, rest⟩ := by
  cases room with
  | zero => rfl
  | succ room =>
    have hnone : (afterColon first rest).bind Ipv4.read = none ∧ (afterColon first rest).bind readGroup = none := by
      rcases h with rfl | ⟨more, rfl⟩ <;> cases first <;> exact ⟨rfl, rfl⟩
    simp [readGroups, hnone]

/-- A group that was written is read, and then the groups behind it. -/
theorem readGroups_step {room : Nat} {first : Bool} {s : List Char} {group : UInt16} {rest : List Char}
    (hcolon : afterColon first s = some (hex group ++ rest)) (h : EndsGroup rest) :
    readGroups (room + 1) first s =
      ⟨group :: (readGroups room false rest).groups, (readGroups room false rest).embedded,
        (readGroups room false rest).rest⟩ := by
  simp [readGroups, hcolon, read4_hex_append group h, readGroup_hex_append group h]

/-- Groups are read one by one, as long as there is room for them. Induction on the groups. -/
theorem readGroups_moreGroups {groups : List UInt16} {room : Nat} (hroom : groups.length ≤ room) {rest : List Char}
    (h : EndsRun rest) : readGroups room false (moreGroups groups ++ rest) = ⟨groups, false, rest⟩ := by
  induction groups generalizing room with
  | nil => exact readGroups_of_endsRun room false h
  | cons group groups ih =>
    obtain ⟨room, rfl⟩ : ∃ r, room = r + 1 := ⟨room - 1, by simp at hroom; omega⟩
    have htext : afterColon false (moreGroups (group :: groups) ++ rest) =
        some (hex group ++ (moreGroups groups ++ rest)) := by
      simp [moreGroups, afterColon, expect]
    rw [readGroups_step htext (endsGroup_moreGroups groups h), ih (by simpa using hroom)]

/-- **Groups that were written are read**, if there is room for them. -/
theorem readGroups_groupChars {groups : List UInt16} {room : Nat} (hroom : groups.length ≤ room) {rest : List Char}
    (h : EndsRun rest) : readGroups room true (groupChars groups ++ rest) = ⟨groups, false, rest⟩ := by
  cases groups with
  | nil => exact readGroups_of_endsRun room true h
  | cons group groups =>
    obtain ⟨room, rfl⟩ : ∃ r, room = r + 1 := ⟨room - 1, by simp at hroom; omega⟩
    have htext : afterColon true (groupChars (group :: groups) ++ rest) =
        some (hex group ++ (moreGroups groups ++ rest)) := by
      simp [afterColon, groupChars_cons]
    rw [readGroups_step htext (endsGroup_moreGroups groups h), readGroups_moreGroups (by simpa using hroom) h]

/-! ## The stretch that is left out

The search keeps the longest stretch so far and the one that it is in. All that reading needs to know of the result is
that the groups in it are zeros. -/

/-- All groups in a stretch are zero. -/
def AllZero (groups : List UInt16) (zeros : ZeroRun) : Prop :=
  ∀ i, zeros.start ≤ i → i < zeros.start + zeros.length → groups[i]? = some 0

/-- The search has passed the groups before `index`. The stretch at its back ends there, and has zeros only, and so has
the longest stretch so far. Induction on the groups to come. -/
theorem allZero_longestZeroRun {groups left : List UInt16} {index : Nat} {current longest : ZeroRun}
    (hleft : groups.drop index = left) (hcurrent : AllZero groups current)
    (hback : current.length ≠ 0 → current.start + current.length = index) (hlongest : AllZero groups longest) :
    AllZero groups (longestZeroRun index current longest left) := by
  induction left generalizing index current longest with
  | nil => exact hlongest
  | cons group left ih =>
    have hnext : groups.drop (index + 1) = left := by
      rw [← List.drop_drop, hleft]
      rfl
    have hhere : groups[index]? = some group := by
      rw [← List.head?_drop, hleft]
      rfl
    unfold longestZeroRun
    split
    · next hzero =>
      subst hzero
      -- the stretch grows by the group at its end
      let grown : ZeroRun := ⟨if current.length = 0 then index else current.start, current.length + 1⟩
      have hgrown : AllZero groups grown := by
        intro i hlow hhigh
        by_cases hi : i = index
        · rw [hi, hhere]
        · refine hcurrent i ?_ ?_ <;> simp only [grown] at hlow hhigh <;> split at hlow <;> split at hhigh <;> omega
      have hkept : AllZero groups (if longest.length < grown.length then grown else longest) := by
        split
        · exact hgrown
        · exact hlongest
      refine ih hnext hgrown (fun _ => ?_) hkept
      show (if current.length = 0 then index else current.start) + (current.length + 1) = index + 1
      split <;> omega
    · exact ih hnext (fun i hlow hhigh => by simp at hlow hhigh) (fun h => absurd rfl h) hlongest

/-- A list is what is before a stretch, the zeros of the stretch, and what is behind it. -/
theorem AllZero.eq_append {groups : List UInt16} {zeros : ZeroRun} (h : AllZero groups zeros) :
    groups = groups.take zeros.start ++ List.replicate zeros.length 0 ++ groups.drop (zeros.start + zeros.length) := by
  have hzeros : (groups.drop zeros.start).take zeros.length = List.replicate zeros.length 0 := by
    refine List.ext_getElem? fun i => ?_
    by_cases hi : i < zeros.length
    · simp [hi, h (zeros.start + i) (by omega) (by omega)]
    · rw [List.getElem?_take, List.getElem?_replicate, if_neg hi, if_neg hi]
  rw [← hzeros, List.append_assoc, ← List.drop_drop, List.take_append_drop, List.take_append_drop]

/-! ## Whole addresses

Three forms are written, and each is read in its own way: eight groups, groups around a gap, and an embedded IPv4
address. In the second form the gap has more than one group, which leaves the reader room behind the colons. -/

/-- An address is made of its eight groups. -/
theorem ofGroups?_groups (ip : Ipv6) : ofGroups? ip.groups = some ip := by
  simp [ofGroups?, ip.length_groups]

/-- Eight groups in a row are an address. -/
theorem read_groupChars (ip : Ipv6) : read (groupChars ip.groups) = some (ip, []) := by
  have hfront : readGroups 8 true (groupChars ip.groups) = ⟨ip.groups, false, []⟩ := by
    simpa using readGroups_groupChars (Nat.le_of_eq ip.length_groups) (.inl rfl)
  simp [read, hfront, ip.length_groups, ofGroups?_groups]

/-- Groups in front of two colons and behind them, with a gap of more than one group that is zero. -/
theorem read_gap {ip : Ipv6} {front back : List UInt16} {gap : Nat} (hgap : 1 < gap)
    (hgroups : ip.groups = front ++ List.replicate gap 0 ++ back) :
    read (groupChars front ++ ':' :: ':' :: groupChars back) = some (ip, []) := by
  have hlength : front.length + gap + back.length = 8 := by
    rw [← ip.length_groups, hgroups]
    simp
    omega
  -- the groups in front of the two colons, and then those behind them, as many as there is room for
  have hfront : readGroups 8 true (groupChars front ++ ':' :: ':' :: groupChars back) =
      ⟨front, false, ':' :: ':' :: groupChars back⟩ :=
    readGroups_groupChars (by omega) (.inr ⟨_, rfl⟩)
  have hback : readGroups (7 - front.length) true (groupChars back) = ⟨back, false, []⟩ := by
    have hroom : back.length ≤ 7 - front.length := by omega
    simpa using readGroups_groupChars hroom (.inl rfl)
  -- what is missing of the eight is the gap
  have hzeros : 8 - front.length - back.length = gap := by omega
  have hnot : front.length ≠ 8 := by omega
  simp only [read, hfront, hnot, if_false, hback, hzeros, ← hgroups, ofGroups?_groups]
  rfl

/-- The bytes of a group put together again. -/
theorem group_of_bytes (group : UInt16) :
    UInt16.ofNat (256 * (UInt8.ofNat (group.toNat / 256)).toNat + (UInt8.ofNat (group.toNat % 256)).toNat) = group := by
  have hlt := group.toNat_lt
  have hupper : (UInt8.ofNat (group.toNat / 256)).toNat = group.toNat / 256 :=
    UInt8.toNat_ofNat_of_lt (by show _ < 256; omega)
  have hlower : (UInt8.ofNat (group.toNat % 256)).toNat = group.toNat % 256 :=
    UInt8.toNat_ofNat_of_lt (by show _ < 256; omega)
  rw [hupper, hlower, Nat.div_add_mod, UInt16.ofNat_toNat]

/-- The groups of an address that has an IPv4 address in it. -/
theorem groups_of_embeddedIpv4? {ip : Ipv6} {ipv4 : Ipv4} (h : ip.embeddedIpv4? = some ipv4) :
    ip.groups = List.replicate 5 0 ++ 0xFFFF :: groupsOfIpv4 ipv4 := by
  unfold embeddedIpv4? at h
  split at h
  · next high low heq =>
    obtain rfl := Option.some.inj h
    rw [heq, groupsOfIpv4, group_of_bytes, group_of_bytes]
    rfl
  · cases h

/-- An embedded IPv4 address is read behind the group in front of it. -/
theorem read_embedded {ip : Ipv6} {ipv4 : Ipv4} (h : ip.embeddedIpv4? = some ipv4) :
    read ("::ffff:".toList ++ ipv4.chars) = some (ip, []) := by
  have hfront : readGroups 8 true ("::ffff:".toList ++ ipv4.chars) =
      ⟨[], false, ':' :: ':' :: ("ffff:".toList ++ ipv4.chars)⟩ :=
    readGroups_of_endsRun 8 true (.inr ⟨_, rfl⟩)
  have hipv4 : readGroups 6 false (':' :: ipv4.chars) = ⟨groupsOfIpv4 ipv4, true, []⟩ := by
    simp [readGroups, afterColon, expect, Ipv4.read_chars]
  -- one group and an IPv4 address, which takes the room of two
  have hback : readGroups 7 true ("ffff:".toList ++ ipv4.chars) = ⟨0xFFFF :: groupsOfIpv4 ipv4, true, []⟩ := by
    have hcolon : afterColon true ("ffff:".toList ++ ipv4.chars) = some (hex 0xFFFF ++ ':' :: ipv4.chars) := rfl
    rw [readGroups_step hcolon (by simp [EndsGroup]), hipv4]
  have hgroups : [] ++ List.replicate (8 - 0 - 3) 0 ++ 0xFFFF :: groupsOfIpv4 ipv4 = ip.groups :=
    (groups_of_embeddedIpv4? h).symm
  have hlength : (0xFFFF :: groupsOfIpv4 ipv4).length = 3 := rfl
  simp only [read, hfront, List.length_nil, hback, hlength, hgroups, ofGroups?_groups]
  rfl

/-- **An address that was written is read again.** -/
theorem read_chars (ip : Ipv6) : read ip.chars = some (ip, []) := by
  unfold chars
  split
  · next ipv4 hipv4 => exact read_embedded hipv4
  · let zeros := longestZeroRun 0 ⟨0, 0⟩ ⟨0, 0⟩ ip.groups
    have hzeros : AllZero ip.groups zeros := by
      have hempty : AllZero ip.groups ⟨0, 0⟩ := fun i _ hi => absurd hi (Nat.not_lt_zero i)
      exact allZero_longestZeroRun rfl hempty (fun h => absurd rfl h) hempty
    show read (if 1 < zeros.length then _ else _) = _
    split
    · next hgap => simpa using read_gap hgap hzeros.eq_append
    · exact read_groupChars ip

/-! ## Addresses of either version

An address is tried as one of IPv4 first, so the text of an IPv6 address must not begin like one. -/

/-- No IPv4 address is found in groups, since no dot comes behind their digits. -/
theorem read4_groupChars_append (groups : List UInt16) {rest : List Char} (h : EndsRun rest) :
    Ipv4.read (groupChars groups ++ rest) = none := by
  cases groups with
  | nil => rcases h with rfl | ⟨more, rfl⟩ <;> rfl
  | cons group groups =>
    rw [groupChars_cons, List.append_assoc]
    exact read4_hex_append group (endsGroup_moreGroups groups h)

/-- What is written for an IPv6 address does not begin with an IPv4 address. -/
theorem read4_chars (ip : Ipv6) : Ipv4.read ip.chars = none := by
  unfold chars
  split
  · rfl
  · dsimp only
    split
    · rw [List.append_assoc]
      exact read4_groupChars_append _ (.inr ⟨_, rfl⟩)
    · simpa using read4_groupChars_append ip.groups (.inl rfl)

end Ipv6

/-- **An address is read as it was written**, be it of the one kind or of the other. -/
theorem Ip.ofChars?_chars (ip : Ip) : Ip.ofChars? ip.chars = some ip := by
  cases ip with
  | v4 address => simp [ofChars?, read, chars, Ipv4.read_chars]
  | v6 address => simp [ofChars?, read, chars, Ipv6.read4_chars, Ipv6.read_chars]

end FtpIntake

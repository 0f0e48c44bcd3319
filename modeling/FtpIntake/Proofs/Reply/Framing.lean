import FtpIntake.Connection
import FtpIntake.Proofs.Text.Utf8

/-!
# Where a reply ends

A client reads the control connection line by line and takes a line that begins with three digits and a space for the
last one of a reply. Nothing else tells it where the next reply begins, so a reply that this rule cuts in two, or does
not cut off, puts the two sides out of step for good.

The client works on bytes and the server on texts. So the line that looks like a last one is told twice, by
`endsReply` of the bytes that arrive and by `beginsWithCode` of the text that is sent, and most of the lemmas say that
the two agree: the digits, the space and the line feed are single bytes, and no other character has such a byte in it.

* **`Reply.decode`** is the client's side: the bytes that have arrived, cut into replies, and what is left over.
* **`Reply.IsFramed`** is what a reply needs: a code of three digits, and no line inside it that looks like a last one.
* **`Reply.decode_flatMap`** says that framed replies are read one by one, just as they were sent.

The replies of the server are framed because of what they quote, which is shown elsewhere. Here a reply is any code
with any message.
-/

namespace FtpIntake

open Text

namespace Reply

/-! ## The client's side

A client that knows nothing but the rule of the protocol: a reply goes on until a line that begins with three digits
and a space. It works on bytes, cuts them into lines, and puts the lines together. -/

/-- What a client takes for a reply: the code on its last line, and its bytes. -/
structure Received where
  code : Nat
  bytes : Bytes
  deriving DecidableEq

def isDigitByte (b : UInt8) : Bool :=
  48 ≤ b.toNat && b.toNat ≤ 57

/-- Whether a line is whole and begins with three digits and a space. -/
def endsReply (line : Bytes) : Bool :=
  match line with
  | a :: b :: c :: d :: _ =>
    isDigitByte a && isDigitByte b && isDigitByte c && d == 32 && line.getLast? == some 10
  | _ => false

def codeOf : Bytes → Nat
  | a :: b :: c :: _ => 100 * (a.toNat - 48) + 10 * (b.toNat - 48) + (c.toNat - 48)
  | _ => 0

/-- Puts lines together to replies. The bytes in `begun` are those of the reply that has begun. -/
def collect (begun : Bytes) : List Bytes → List Received × Bytes
  | [] => ([], begun)
  | line :: rest =>
    if endsReply line then
      (⟨codeOf line, begun ++ line⟩ :: (collect [] rest).1, (collect [] rest).2)
    else collect (begun ++ line) rest

/-- The replies in some bytes, and the bytes after the last of them. -/
def decode (bytes : Bytes) : List Received × Bytes :=
  collect [] (cutLines bytes)

/-! ## What a reply needs

A message of several lines could have such a line in it, and the client would take it for the end. `IsFramed` excludes
this, and no more than this. -/

/-- Whether a line of a message could be taken for the last line of a reply. -/
def beginsWithCode : List Char → Bool
  | a :: b :: c :: d :: _ => a.isDigit && b.isDigit && c.isDigit && d == ' '
  | _ => false

/--
The code has three digits, and no line between the first and the last looks like a last line. A message of one line has
to be free of line feeds, because it is sent as it stands.
-/
structure IsFramed (r : Reply) : Prop where
  code : 100 ≤ r.code ∧ r.code ≤ 999
  between : ∀ line ∈ (lines r.message.toList).tail.dropLast, beginsWithCode line = false
  single : (lines r.message.toList).length < 2 → '\n' ∉ r.message.toList

instance (r : Reply) : Decidable r.IsFramed :=
  decidable_of_iff
    ((100 ≤ r.code ∧ r.code ≤ 999) ∧
      (∀ line ∈ (lines r.message.toList).tail.dropLast, beginsWithCode line = false) ∧
      ((lines r.message.toList).length < 2 → '\n' ∉ r.message.toList))
    ⟨fun ⟨hcode, hbetween, hsingle⟩ => ⟨hcode, hbetween, hsingle⟩, fun h => ⟨h.code, h.between, h.single⟩⟩

/-! ### Lines

How a text falls into lines, for the cases that replies have. -/

/-- A text without a line feed is one line, or none if it is empty. -/
theorem lines_of_notMem {s : List Char} (h : '\n' ∉ s) : lines s = if s.isEmpty then [] else [s] := by
  unfold lines
  rw [splitAt_of_notMem h]
  rfl

/-- A line feed ends the line in front of it, and takes a carriage return before it along. -/
theorem lines_append {s : List Char} (h : '\n' ∉ s) (t : List Char) :
    lines (s ++ '\n' :: t) = dropReturn s :: lines t := by
  have hne := splitAt_ne_nil '\n' t
  unfold lines
  rw [splitAt_append h]
  dsimp only
  rw [List.dropLast_cons_of_ne_nil hne, List.map_cons, List.cons_append]
  cases hpieces : splitAt '\n' t with
  | nil => exact absurd hpieces hne
  | cons piece pieces => rfl

/-- Every text that is not empty has a line. -/
theorem lines_ne_nil {s : List Char} (h : s ≠ []) : lines s ≠ [] := by
  by_cases hfeed : '\n' ∈ s
  · obtain ⟨before, after, rfl, hbefore⟩ := List.eq_append_cons_of_mem hfeed
    rw [lines_append hbefore]
    exact List.cons_ne_nil _ _
  · rw [lines_of_notMem hfeed, if_neg (by simpa using h)]
    exact List.cons_ne_nil _ _

/-- Taking a carriage return away adds nothing. -/
theorem mem_of_mem_dropReturn {s : List Char} {c : Char} (h : c ∈ dropReturn s) : c ∈ s := by
  unfold dropReturn at h
  split at h
  · exact List.dropLast_subset _ h
  · exact h

/-- No line has a line feed in it. Induction along the text. -/
theorem feed_notMem_of_mem_lines {s line : List Char} (h : line ∈ lines s) : '\n' ∉ line := by
  unfold lines at h
  have hpiece : ∀ p ∈ splitAt '\n' s, '\n' ∉ p := fun p hp => notMem_of_mem_splitAt hp
  rcases List.mem_append.1 h with h | h
  · obtain ⟨piece, hmem, rfl⟩ := List.mem_map.1 h
    exact fun hfeed => hpiece piece (List.dropLast_subset _ hmem) (mem_of_mem_dropReturn hfeed)
  · split at h
    · exact absurd h List.not_mem_nil
    · rw [List.mem_singleton.1 h]
      have hne := splitAt_ne_nil '\n' s
      refine hpiece _ ?_
      rw [List.getLastD_eq_getLast?, List.getLast?_eq_some_getLast hne]
      exact List.getLast_mem hne

/-- A reply of one line needs no more than a code of three digits, because it has no line inside it. -/
theorem isFramed_of_notMem {r : Reply} (hcode : 100 ≤ r.code ∧ r.code ≤ 999) (h : '\n' ∉ r.message.toList) :
    r.IsFramed := by
  refine ⟨hcode, ?_, fun _ => h⟩
  rw [lines_of_notMem h]
  split <;> simp

/-- A line that does not begin with a digit is no last one. -/
theorem beginsWithCode_cons {c : Char} (h : c.isDigit = false) (s : List Char) : beginsWithCode (c :: s) = false := by
  unfold beginsWithCode
  split
  · next heq =>
    obtain ⟨rfl, -⟩ := List.cons.inj heq
    rw [h]
    rfl
  · rfl

/-- Nor is it when its carriage return is taken away. -/
theorem beginsWithCode_dropReturn {c : Char} (h : c.isDigit = false) (s : List Char) :
    beginsWithCode (dropReturn (c :: s)) = false := by
  unfold dropReturn
  split
  · cases s with
    | nil => rfl
    | cons d s => exact beginsWithCode_cons h _
  · exact beginsWithCode_cons h s

/-! ### Codes

A code of three digits is sent as three digits, so the client's rule can find it. -/

/-- A code is printed by three digits. -/
theorem numeral_code {code : Nat} (h : 100 ≤ code ∧ code ≤ 999) :
    numeral code = [Nat.digitChar (code / 100), Nat.digitChar (code / 10 % 10), Nat.digitChar (code % 10)] := by
  have hfirst : code / 10 / 10 < 10 := by omega
  rw [numeral, Nat.toDigits_of_base_le (by decide) (by omega), Nat.toDigits_of_base_le (by decide) (by omega),
    Nat.toDigits_of_lt_base hfirst, Nat.div_div_eq_div_mul]
  rfl

/-- The digits follow each other from 48 on. -/
theorem toNat_digitChar {d : Nat} (h : d < 10) : (Nat.digitChar d).toNat = 48 + d := by
  revert d
  decide

/-- A digit is one byte. -/
theorem utf8_digitChar {d : Nat} (h : d < 10) (s : List Char) :
    utf8 (Nat.digitChar d :: s) = UInt8.ofNat (48 + d) :: utf8 s := by
  have hnumber := toNat_digitChar h
  rw [utf8_cons, utf8EncodeChar_of_lt (by omega), hnumber]
  rfl

/-- The digits that the text knows are those that the client looks for in the bytes. -/
theorem isDigit_iff {c : Char} : c.isDigit = true ↔ 48 ≤ c.toNat ∧ c.toNat ≤ 57 := by
  unfold Char.isDigit
  rw [Bool.and_eq_true, decide_eq_true_iff, decide_eq_true_iff, ge_iff_le, UInt32.le_iff_toNat_le,
    UInt32.le_iff_toNat_le]
  rfl

/-- A line that begins with a code is one line if its text is. -/
theorem feed_notMem_coded (code : Nat) (sign : Char) (hsign : sign ≠ '\n') {text : List Char} (h : '\n' ∉ text) :
    '\n' ∉ numeral code ++ sign :: text := by
  rw [List.mem_append, List.mem_cons, not_or, not_or]
  refine ⟨fun hmem => ?_, hsign.symm, h⟩
  exact absurd (Nat.isDigit_of_mem_toDigits (by decide) (by decide) hmem) (by decide)

/-! ## Lines on the wire

A line is sent as bytes, and its characters beyond ASCII take several. None of these is a line feed or a digit, so the
client sees the same lines and the same beginnings as the text has. -/

theorem utf8_lineEnd : utf8 lineEnd = [13, 10] := by
  decide

/-- The client cuts a line off at the first line feed. -/
theorem cutLines_append {line : Bytes} (h : 10 ∉ line) (rest : Bytes) :
    cutLines (line ++ 10 :: rest) = (line ++ [10]) :: cutLines rest := by
  induction line with
  | nil => rfl
  | cons b line ih =>
    rw [List.mem_cons, not_or] at h
    rw [List.cons_append, cutLines, if_neg (Ne.symm h.1), ih h.2]
    rfl

/-- A line of a reply is cut off as it was sent, because the bytes of its characters have a line feed only where the
text has one. -/
theorem cutLines_utf8 {line : List Char} (h : '\n' ∉ line) (rest : Bytes) :
    cutLines (utf8 (line ++ lineEnd) ++ rest) = utf8 (line ++ lineEnd) :: cutLines rest := by
  have hfree : 10 ∉ utf8 line ++ [13] := by
    rw [List.mem_append, not_or]
    exact ⟨feed_notMem_utf8 h, by decide⟩
  have hcut := cutLines_append hfree rest
  rw [utf8_append, utf8_lineEnd]
  simpa only [List.append_assoc, List.cons_append, List.nil_append] using hcut

/-- A line whose bytes end a reply begins with a code. The four bytes that are looked at stand for themselves. -/
theorem beginsWithCode_of_endsReply {line : List Char} (h : endsReply (utf8 line) = true) :
    beginsWithCode line = true := by
  unfold endsReply at h
  split at h
  · next w x y z bytes heq =>
    simp only [Bool.and_eq_true, isDigitByte, decide_eq_true_eq, beq_iff_eq] at h
    obtain ⟨⟨⟨⟨hw, hx⟩, hy⟩, rfl⟩, -⟩ := h
    -- a byte below 128 is a character of its own, so the four bytes are the first four characters
    obtain ⟨a, line, rfl, ha, heq⟩ := exists_cons_of_utf8_eq_cons heq (by omega)
    obtain ⟨b, line, rfl, hb, heq⟩ := exists_cons_of_utf8_eq_cons heq (by omega)
    obtain ⟨c, line, rfl, hc, heq⟩ := exists_cons_of_utf8_eq_cons heq (by omega)
    obtain ⟨d, line, rfl, hd, -⟩ := exists_cons_of_utf8_eq_cons heq (by decide)
    obtain rfl : d = ' ' := Char.toNat_inj.1 hd
    simp only [beginsWithCode, Bool.and_eq_true, isDigit_iff]
    exact ⟨⟨⟨by omega, by omega⟩, by omega⟩, rfl⟩
  · exact absurd h Bool.false_ne_true

/-- The line end does not make a code out of what is none. -/
theorem beginsWithCode_append_lineEnd {line : List Char} (h : beginsWithCode line = false) :
    beginsWithCode (line ++ lineEnd) = false := by
  -- the fourth character of a shorter line would be part of its line end
  match line with
  | [] => rfl
  | [a] => simp [beginsWithCode, lineEnd]
  | [a, b] => simp [beginsWithCode, lineEnd, show Char.isDigit '\r' = false from rfl]
  | [a, b, c] => simp [beginsWithCode, lineEnd]
  | a :: b :: c :: d :: line => exact h

/-- A line that does not look like a last one as a text does not look like one as bytes, with its line end or without.
-/
theorem endsReply_of_beginsWithCode_eq_false {line : List Char} (h : beginsWithCode line = false) :
    endsReply (utf8 (line ++ lineEnd)) = false := by
  rw [Bool.eq_false_iff]
  intro hends
  have hbegins := beginsWithCode_of_endsReply hends
  rw [beginsWithCode_append_lineEnd h] at hbegins
  exact Bool.false_ne_true hbegins

/-! ## One reply

All lines but the last are collected, and the last one ends the reply and gives it its code. -/

/-- What stands before the last line of a framed reply: lines none of which the client takes for the last one. -/
theorem IsFramed.exists_wireChars {r : Reply} (h : r.IsFramed) :
    ∃ (before : List (List Char)) (text : List Char),
      r.wireChars = before.flatMap (· ++ lineEnd) ++ finalLine r.code text ∧ '\n' ∉ text ∧
        ∀ line ∈ before, '\n' ∉ line ∧ beginsWithCode line = false := by
  have hlines : ∀ line ∈ lines r.message.toList, '\n' ∉ line := fun line hline => feed_notMem_of_mem_lines hline
  have hbetween := h.between
  unfold wireChars
  split
  · next first second rest heq =>
    -- several lines: the first stands behind the code and a hyphen, where a last line has a space
    rw [heq] at hlines hbetween
    refine ⟨(numeral r.code ++ '-' :: first) :: (second :: rest).dropLast, (second :: rest).getLastD [], ?_, ?_, ?_⟩
    · rw [severalLines, openingLine, List.flatMap_cons]
    · rw [List.getLastD_eq_getLast?, List.getLast?_eq_some_getLast (List.cons_ne_nil _ _)]
      exact hlines _ (List.mem_cons_of_mem _ (List.getLast_mem _))
    · rintro line hline
      rcases List.mem_cons.1 hline with rfl | hline
      · refine ⟨feed_notMem_coded r.code '-' (by decide) (hlines first List.mem_cons_self), ?_⟩
        rw [numeral_code h.code]
        simp [beginsWithCode]
      · exact ⟨hlines line (List.mem_cons_of_mem _ (List.dropLast_subset _ hline)), hbetween line hline⟩
  · next hfew =>
    -- one line: the message is sent as it stands
    refine ⟨[], r.message.toList, rfl, h.single ?_, fun line hline => absurd hline List.not_mem_nil⟩
    match hlines' : lines r.message.toList with
    | [] => exact Nat.zero_lt_two
    | [line] => exact Nat.one_lt_two
    | first :: second :: rest => exact absurd hlines' (hfew first second rest)

/-- The bytes of a code are its three digits. -/
theorem utf8_numeral_append {code : Nat} (hcode : 100 ≤ code ∧ code ≤ 999) (s : List Char) :
    utf8 (numeral code ++ s) =
      UInt8.ofNat (48 + code / 100) :: UInt8.ofNat (48 + code / 10 % 10) :: UInt8.ofNat (48 + code % 10) :: utf8 s := by
  rw [numeral_code hcode]
  simp only [List.cons_append, List.nil_append]
  rw [utf8_digitChar (by omega), utf8_digitChar (by omega), utf8_digitChar (by omega)]

/-- The client takes a line that begins with a code and a space for the last one, and reads the code off it. -/
theorem endsReply_coded {code : Nat} (hcode : 100 ≤ code ∧ code ≤ 999) (text : List Char) (before : Bytes) :
    let line := utf8 (numeral code ++ ' ' :: text) ++ (before ++ [10])
    endsReply line = true ∧ codeOf line = code := by
  have hvalue {d : Nat} (hd : d < 10) : (UInt8.ofNat (48 + d)).toNat = 48 + d := by
    rw [UInt8.toNat_ofNat', Nat.mod_eq_of_lt (by omega)]
  have hspace : utf8 (' ' :: text) = 32 :: utf8 text := rfl
  rw [utf8_numeral_append hcode, hspace]
  simp only [List.cons_append]
  constructor
  · -- three digits and a space in front, and a line feed at the end, whatever stands between
    simp only [endsReply, isDigitByte, Bool.and_eq_true, decide_eq_true_eq, beq_iff_eq]
    rw [hvalue (by omega), hvalue (by omega), hvalue (by omega)]
    refine ⟨⟨⟨⟨by omega, by omega⟩, by omega⟩, trivial⟩, ?_⟩
    rw [← List.append_assoc, ← List.cons_append, ← List.cons_append, ← List.cons_append, ← List.cons_append]
    exact List.getLast?_concat
  · rw [codeOf, hvalue (by omega), hvalue (by omega), hvalue (by omega)]
    omega

/-- The last line of a reply is taken for one, and its code is read. -/
theorem endsReply_finalLine {code : Nat} (hcode : 100 ≤ code ∧ code ≤ 999) (text : List Char) :
    endsReply (utf8 (finalLine code text)) = true ∧ codeOf (utf8 (finalLine code text)) = code := by
  have hbytes : utf8 (finalLine code text) = utf8 (numeral code ++ ' ' :: text) ++ ([13] ++ [10]) := by
    rw [finalLine, utf8_append, utf8_lineEnd]
    rfl
  rw [hbytes]
  exact endsReply_coded hcode text [13]

/-! ## All replies

Reading is a fold over the lines, so it goes through the replies one by one. -/

/-- Lines that do not end a reply are kept for the one that does. Induction on these lines. -/
theorem collect_append {before : List Bytes} (h : ∀ line ∈ before, endsReply line = false) (begun : Bytes)
    (rest : List Bytes) : collect begun (before ++ rest) = collect (begun ++ before.flatten) rest := by
  induction before generalizing begun with
  | nil => simp
  | cons line before ih =>
    have hline := h line List.mem_cons_self
    rw [List.cons_append, collect, hline, if_neg Bool.false_ne_true,
      ih fun line' hline' => h line' (List.mem_cons_of_mem _ hline'), List.flatten_cons, List.append_assoc]

/-- Several lines are cut where they were put together. Induction on the lines. -/
theorem cutLines_flatMap {before : List (List Char)} (h : ∀ line ∈ before, '\n' ∉ line) (rest : Bytes) :
    cutLines (utf8 (before.flatMap (· ++ lineEnd)) ++ rest) =
      before.map (fun line => utf8 (line ++ lineEnd)) ++ cutLines rest := by
  induction before with
  | nil => rfl
  | cons line before ih =>
    rw [List.flatMap_cons, utf8_append, List.append_assoc, cutLines_utf8 (h line List.mem_cons_self),
      ih fun line' hline' => h line' (List.mem_cons_of_mem _ hline')]
    rfl

/-- What is sent of a reply are the bytes of its text. -/
theorem wireBytes_eq (r : Reply) : Client.wireBytes r = utf8 r.wireChars := by
  rw [Client.wireBytes, wire, toList_toUTF8, String.toList_ofList]

/-- **A framed reply is read as one reply**, and the client is ready for the next one behind it. -/
theorem decode_wireBytes {r : Reply} (h : r.IsFramed) (rest : Bytes) :
    decode (Client.wireBytes r ++ rest) = (⟨r.code, Client.wireBytes r⟩ :: (decode rest).1, (decode rest).2) := by
  obtain ⟨before, text, hwire, htext, hbefore⟩ := h.exists_wireChars
  obtain ⟨hends, hcode⟩ := endsReply_finalLine h.code text
  have hfinal : finalLine r.code text = (numeral r.code ++ ' ' :: text) ++ lineEnd := by
    simp [finalLine]
  have hfree : '\n' ∉ numeral r.code ++ ' ' :: text := feed_notMem_coded r.code ' ' (by decide) htext
  have hcut : cutLines (Client.wireBytes r ++ rest) =
      before.map (fun line => utf8 (line ++ lineEnd)) ++ utf8 (finalLine r.code text) :: cutLines rest := by
    rw [wireBytes_eq, hwire, utf8_append, List.append_assoc,
      cutLines_flatMap fun line hline => (hbefore line hline).1, hfinal, cutLines_utf8 hfree]
  have hbytes : (before.map fun line => utf8 (line ++ lineEnd)).flatten ++ utf8 (finalLine r.code text) =
      Client.wireBytes r := by
    rw [wireBytes_eq, hwire, utf8_append]
    simp only [utf8, List.flatMap_def, List.map_flatten, List.map_map, List.flatten_flatten]
    rfl
  -- the lines before the last one are collected, and then the reply is complete
  rw [decode, hcut, collect_append, collect, hends, List.nil_append, hbytes, hcode]
  · rfl
  · intro line hline
    obtain ⟨chars, hchars, rfl⟩ := List.mem_map.1 hline
    exact endsReply_of_beginsWithCode_eq_false (hbefore chars hchars).2

/-- **Framed replies are read one by one**, just as they were sent, and nothing is left over. -/
theorem decode_flatMap {replies : List Reply} (h : ∀ r ∈ replies, r.IsFramed) :
    decode (replies.flatMap Client.wireBytes) = (replies.map fun r => ⟨r.code, Client.wireBytes r⟩, []) := by
  induction replies with
  | nil => rfl
  | cons r replies ih =>
    rw [List.flatMap_cons, decode_wireBytes (h r List.mem_cons_self),
      ih fun r' hr' => h r' (List.mem_cons_of_mem _ hr')]
    rfl

end Reply

end FtpIntake

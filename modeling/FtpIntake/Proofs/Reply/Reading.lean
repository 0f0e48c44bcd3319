import FtpIntake.Proofs.Reply.Framing

/-!
# What a client reads off a reply

Once a client has found the end of a reply it takes the codes and the line ends off and has the lines of the message.
For a message of several lines, or of one that is not ended, these are the lines it was put together from, wherever
there are carriage returns in it. A message of one line that is ended by a line feed is sent as it stands, so the client
sees the end of the reply at that line feed and is left with a line end that belongs to nothing.

* **`Reply.ReadBack`** says that a client reads a reply as a whole and gets the lines of its message.
* **`Reply.texts_wireBytes`** is the case that goes well, and **`Reply.decode_of_feed_at_end`** the other one.
* **`Reply.readBack_iff`** tells them apart.
-/

namespace FtpIntake.Reply

open Text

/-! ## The client's side

What a client does with a reply that it has found: it takes the lines apart, and the codes and line ends off them. -/

/-- A line without the carriage return and the line feed at its end. -/
def withoutEnd (line : Bytes) : Bytes :=
  if line.drop (line.length - 2) = [13, 10] then line.take (line.length - 2) else line

/-- What a line with a code says: everything behind the code and the sign after it. -/
def textOf (line : Bytes) : Bytes :=
  (withoutEnd line).drop 4

/-- What the lines of a reply say. The first and the last one begin with the code. -/
def textsIn : List Bytes → List Bytes
  | [] => []
  | [line] => [textOf line]
  | first :: second :: rest =>
    textOf first :: (second :: rest).dropLast.map withoutEnd ++ [textOf ((second :: rest).getLastD [])]

/-- The lines of a message. An empty message is one empty line. -/
def messageLines (message : String) : List (List Char) :=
  if lines message.toList = [] then [[]] else lines message.toList

/-- A client that is sent the reply takes it for one reply with its code, up to the last byte, and gets the lines of the
message. -/
structure ReadBack (r : Reply) : Prop where
  framed : decode (Client.wireBytes r) = ([⟨r.code, Client.wireBytes r⟩], [])
  texts : textsIn (cutLines (Client.wireBytes r)) = (messageLines r.message).map utf8

theorem textsIn_append (first : Bytes) (between : List Bytes) (last : Bytes) :
    textsIn (first :: between ++ [last]) = textOf first :: between.map withoutEnd ++ [textOf last] := by
  have hmore : ∃ second rest, between ++ [last] = second :: rest := by
    cases between with
    | nil => exact ⟨last, [], rfl⟩
    | cons line between => exact ⟨line, between ++ [last], rfl⟩
  obtain ⟨second, rest, hmore⟩ := hmore
  have hlines : first :: between ++ [last] = first :: second :: rest := congrArg (first :: ·) hmore
  rw [hlines, textsIn, ← hmore, List.dropLast_concat, List.getLastD_concat]

theorem withoutEnd_append (line : Bytes) : withoutEnd (line ++ [13, 10]) = line := by
  have hlength : (line ++ [13, 10]).length - 2 = line.length := by
    rw [List.length_append]
    rfl
  rw [withoutEnd, hlength, List.drop_left, if_pos rfl, List.take_left]

theorem withoutEnd_utf8 (line : List Char) : withoutEnd (utf8 (line ++ lineEnd)) = utf8 line := by
  rw [utf8_append, utf8_lineEnd, withoutEnd_append]

theorem textOf_coded {code : Nat} (hcode : 100 ≤ code ∧ code ≤ 999) {sign : Char} (hsign : sign.toNat < 128)
    (text : List Char) : textOf (utf8 (numeral code ++ sign :: text ++ lineEnd)) = utf8 text := by
  rw [textOf, withoutEnd_utf8, utf8_numeral_append hcode, utf8_cons, utf8EncodeChar_of_lt hsign]
  rfl

/-! ## Replies that are read back

The lines are sent as they are in the message, each with a new line end, so they are found again. -/

/-- The lines of a reply with several lines, as a client cuts them. -/
theorem cutLines_severalLines (code : Nat) {first last : List Char} {between : List (List Char)} (hfirst : '\n' ∉ first)
    (hbetween : ∀ line ∈ between, '\n' ∉ line) (hlast : '\n' ∉ last) :
    cutLines (utf8 (severalLines code first between last)) =
      utf8 (numeral code ++ '-' :: first ++ lineEnd) :: between.map (fun line => utf8 (line ++ lineEnd)) ++
        [utf8 (numeral code ++ ' ' :: last ++ lineEnd)] := by
  have hcoded : ∀ line ∈ (numeral code ++ '-' :: first) :: between, '\n' ∉ line :=
    List.forall_mem_cons.2 ⟨feed_notMem_coded code '-' (by decide) hfirst, hbetween⟩
  have hwire : severalLines code first between last =
      ((numeral code ++ '-' :: first) :: between).flatMap (· ++ lineEnd) ++ (numeral code ++ ' ' :: last ++ lineEnd) := by
    simp [severalLines, openingLine, finalLine]
  have hend := cutLines_utf8 (feed_notMem_coded code ' ' (by decide) hlast) []
  rw [List.append_nil] at hend
  rw [hwire, utf8_append, cutLines_flatMap hcoded, hend]
  rfl

theorem messageLines_of_notMem {message : String} (h : '\n' ∉ message.toList) :
    messageLines message = [message.toList] := by
  unfold messageLines
  rw [lines_of_notMem h]
  cases message.toList <;> rfl

/-- A message of fewer than two lines is sent as it stands. -/
theorem wireBytes_of_few {r : Reply} (h : (lines r.message.toList).length < 2) :
    Client.wireBytes r = utf8 (finalLine r.code r.message.toList) := by
  rw [wireBytes_eq]
  unfold wireChars
  split
  · next heq =>
    rw [heq, List.length_cons, List.length_cons] at h
    omega
  · rfl

/-- A message of more lines is sent line by line. -/
theorem wireBytes_of_several {r : Reply} (h : ¬(lines r.message.toList).length < 2) :
    ∃ first between last, lines r.message.toList = first :: between ++ [last] ∧
      Client.wireBytes r = utf8 (severalLines r.code first between last) := by
  rw [wireBytes_eq]
  unfold wireChars
  split
  · next first second rest heq =>
    refine ⟨first, (second :: rest).dropLast, (second :: rest).getLastD [], ?_, rfl⟩
    rw [heq, List.getLastD_eq_getLast?, List.getLast?_eq_some_getLast (List.cons_ne_nil _ _), Option.getD_some,
      List.cons_append, List.dropLast_concat_getLast]
  · next hfew =>
    -- the writer has a third branch for everything else, which two lines or more never reach
    match hlines : lines r.message.toList with
    | [] | [_] => simp [hlines] at h
    | first :: second :: rest => exact absurd hlines (hfew first second rest)

/-- **A framed reply says what its message says**, line by line. -/
theorem texts_wireBytes {r : Reply} (h : r.IsFramed) :
    textsIn (cutLines (Client.wireBytes r)) = (messageLines r.message).map utf8 := by
  by_cases hfew : (lines r.message.toList).length < 2
  · have hone : '\n' ∉ r.message.toList := h.single hfew
    have hcut := cutLines_utf8 (feed_notMem_coded r.code ' ' (by decide) hone) []
    rw [List.append_nil] at hcut
    rw [wireBytes_of_few hfew, messageLines_of_notMem hone, finalLine, hcut]
    exact congrArg (fun text => [text]) (textOf_coded h.code (by decide) r.message.toList)
  · obtain ⟨first, between, last, hlines, hwire⟩ := wireBytes_of_several hfew
    have hone : ∀ line ∈ first :: between ++ [last], '\n' ∉ line := by
      rw [← hlines]
      exact fun line hline => feed_notMem_of_mem_lines hline
    obtain ⟨hbefore, hlast⟩ := List.forall_mem_append.1 hone
    obtain ⟨hfirst, hbetween⟩ := List.forall_mem_cons.1 hbefore
    have hsaid : messageLines r.message = first :: between ++ [last] := by
      rw [messageLines, hlines, if_neg (by simp)]
    rw [hwire, cutLines_severalLines r.code hfirst hbetween (hlast last List.mem_cons_self), textsIn_append,
      textOf_coded h.code (by decide), textOf_coded h.code (by decide), hsaid, List.map_map]
    -- the lines between lose nothing but their ends
    have hends : between.map (withoutEnd ∘ fun line => utf8 (line ++ lineEnd)) = between.map utf8 :=
      List.map_congr_left fun line _ => withoutEnd_utf8 line
    rw [hends, List.map_append, List.map_cons]
    rfl

theorem readBack_of_isFramed {r : Reply} (h : r.IsFramed) : r.ReadBack := by
  refine ⟨?_, texts_wireBytes h⟩
  have hdecode := decode_wireBytes h []
  rw [List.append_nil] at hdecode
  exact hdecode

/-! ## Replies that are not

A message of one line may end in a line feed and still count as one line. It is sent with that line feed and then with
a line end, so it ends twice. -/

/-- A text of fewer than two lines with a line feed in it has the line feed at its end and nowhere else. -/
theorem exists_eq_append_feed {s : List Char} (h : (lines s).length < 2) (hfeed : '\n' ∈ s) :
    ∃ line, s = line ++ ['\n'] ∧ '\n' ∉ line := by
  obtain ⟨line, rest, rfl, hline⟩ := List.eq_append_cons_of_mem hfeed
  rw [lines_append hline, List.length_cons] at h
  cases rest with
  | nil => exact ⟨line, rfl, hline⟩
  | cons c rest =>
    have hmore : 0 < (lines (c :: rest)).length := List.length_pos_iff.2 (lines_ne_nil (List.cons_ne_nil c rest))
    omega

/-- **A line feed at the end of a single line ends the reply for the client**, and the line end that follows is left
over. -/
theorem decode_of_feed_at_end {r : Reply} (hcode : 100 ≤ r.code ∧ r.code ≤ 999)
    (hfew : (lines r.message.toList).length < 2) (hfeed : '\n' ∈ r.message.toList) :
    ∃ bytes, Client.wireBytes r = bytes ++ [13, 10] ∧ decode (Client.wireBytes r) = ([⟨r.code, bytes⟩], [13, 10]) := by
  obtain ⟨line, hmessage, hline⟩ := exists_eq_append_feed hfew hfeed
  let coded := utf8 (numeral r.code ++ ' ' :: line)
  have hwire : Client.wireBytes r = coded ++ 10 :: [13, 10] := by
    have hchars : finalLine r.code r.message.toList = (numeral r.code ++ ' ' :: line) ++ ['\n', '\r', '\n'] := by
      simp [finalLine, lineEnd, hmessage]
    have hfeeds : utf8 ['\n', '\r', '\n'] = [10, 13, 10] := by decide
    rw [wireBytes_of_few hfew, hchars, utf8_append, hfeeds]
  have hfree : 10 ∉ coded := feed_notMem_utf8 (feed_notMem_coded r.code ' ' (by decide) hline)
  obtain ⟨hends, hread⟩ := endsReply_coded hcode line []
  refine ⟨coded ++ [10], by rw [hwire, List.append_assoc]; rfl, ?_⟩
  -- the line end behind the feed is a line of its own, and no reply
  have hleft : cutLines [13, 10] = [[13, 10]] := by decide
  have hnone : endsReply [13, 10] = false := by decide
  rw [decode, hwire, cutLines_append hfree, hleft, collect]
  simp only [List.nil_append] at hends hread
  rw [if_pos hends, hread, List.nil_append, collect, hnone, if_neg Bool.false_ne_true, collect]
  rfl

/-- **Which replies are read back.** A reply has a code of three digits, and no line of its message between the first
and the last begins with three digits and a space. A client that is sent it takes all of it for one reply and gets the
lines of the message, just if the message has several lines or no line feed in it.

Otherwise the message is one line that a line feed ends. Then the client takes what is sent up to this line feed for the
reply, and the line end behind it is left over. -/
theorem readBack_iff {r : Reply} (hcode : 100 ≤ r.code ∧ r.code ≤ 999)
    (hbetween : ∀ line ∈ (lines r.message.toList).tail.dropLast, beginsWithCode line = false) :
    (r.ReadBack ↔ 2 ≤ (lines r.message.toList).length ∨ '\n' ∉ r.message.toList) ∧
      (¬r.ReadBack → ∃ bytes, Client.wireBytes r = bytes ++ [13, 10] ∧
        decode (Client.wireBytes r) = ([⟨r.code, bytes⟩], [13, 10])) := by
  -- two things can make the end visible: a second line, or no line feed in the only one
  have hread (h : 2 ≤ (lines r.message.toList).length ∨ '\n' ∉ r.message.toList) : r.ReadBack := by
    refine readBack_of_isFramed ⟨hcode, hbetween, fun hfew => ?_⟩
    exact h.resolve_left (Nat.not_le_of_lt hfew)
  have hleft (h : ¬(2 ≤ (lines r.message.toList).length ∨ '\n' ∉ r.message.toList)) :
      ∃ bytes, Client.wireBytes r = bytes ++ [13, 10] ∧
        decode (Client.wireBytes r) = ([⟨r.code, bytes⟩], [13, 10]) := by
    obtain ⟨hfew, hfeed⟩ := not_or.1 h
    exact decode_of_feed_at_end hcode (Nat.lt_of_not_le hfew) (Decidable.not_not.1 hfeed)
  refine ⟨⟨fun h => Decidable.byContradiction fun hnot => ?_, hread⟩, fun h => hleft (mt hread h)⟩
  obtain ⟨bytes, -, hdecode⟩ := hleft hnot
  -- a client that reads it back has nothing left over, but here two bytes are
  have hnothing : [13, 10] = ([] : Bytes) := congrArg Prod.snd (hdecode.symm.trans h.framed)
  cases hnothing

/-- A reply of four lines with carriage returns at odd places. -/
theorem readBack_iff_of_returns :
    let r : Reply := ⟨214, "a\r\r\n\n214-b\n200 c\r"⟩
    (100 ≤ r.code ∧ r.code ≤ 999) ∧
      (∀ line ∈ (lines r.message.toList).tail.dropLast, beginsWithCode line = false) ∧ r.ReadBack := by
  intro r
  have hcode : 100 ≤ r.code ∧ r.code ≤ 999 := by decide
  have hbetween : ∀ line ∈ (lines r.message.toList).tail.dropLast, beginsWithCode line = false := by decide
  exact ⟨hcode, hbetween, (readBack_iff hcode hbetween).1.2 (by decide)⟩

/-- It is not true of all replies: this one has a message of one line that a line feed ends. -/
theorem not_readBack_of_feed :
    ¬∀ r : Reply, (100 ≤ r.code ∧ r.code ≤ 999) →
      (∀ line ∈ (lines r.message.toList).tail.dropLast, beginsWithCode line = false) → r.ReadBack := by
  intro h
  have hframed := (h ⟨200, "a\n"⟩ (by decide) (by decide)).framed
  exact absurd (congrArg Prod.snd hframed) (by decide +kernel)

end FtpIntake.Reply

import FtpIntake.Proofs.Connection.Access
import FtpIntake.Proofs.Path.Text
import FtpIntake.Proofs.Server.Directories
import FtpIntake.Proofs.Server.Origin

/-!
# Going back to where one was

A client asks with `PWD` where it is, remembers the text between the quotation marks, and gives it to `CWD` later. On
its way the text is written as a reply, sent back as an argument, trimmed like every argument, and resolved.

* **`Conversation.pwd_take`** says that `PWD` writes the text of the client's directory and leaves the client there.
* **`Conversation.cwd_take`** says where the text leads when it is sent back: to the same directory just if there is no
  white space at its end.
* **`Conversation.printed_leads_back`** puts the two together, for every state that a conversation gets into, and
  `printed_is_refused` shows that there are directories with white space at the end.
-/

namespace FtpIntake

open Text

/-- What `PWD` answers in a directory. -/
def Reply.whereabouts (directory : Path) : Reply :=
  ⟨ReplyCode.pathnameCreated, "\"" ++ toString directory ++ "\" is current directory."⟩

/-- A message of one line is written behind its code. -/
theorem Reply.wireBytes_of_oneLine {r : Reply} (h : OneLine r.message) :
    Client.wireBytes r = utf8 (finalLine r.code r.message.toList) := by
  have hlines := lines_of_notMem h
  rw [wireBytes_eq, wireChars, hlines]
  split
  · next first second rest heq =>
    split at heq <;> cases heq
  · rfl

theorem Reply.wireBytes_whereabouts {directory : Path} (h : directory.MadeOf (· ≠ '\n')) :
    Client.wireBytes (whereabouts directory) =
      ("257 \"" ++ toString directory ++ "\" is current directory.\r\n").toUTF8.toList := by
  have hmessage : OneLine (whereabouts directory).message :=
    oneLine_append (oneLine_append (oneLine_literal rfl) (oneLine_path h)) (oneLine_literal rfl)
  rw [wireBytes_of_oneLine hmessage, toList_toUTF8]
  have hcode : numeral 257 = ['2', '5', '7'] := by decide
  refine congrArg utf8 ?_
  show numeral 257 ++ ' ' :: ("\"" ++ toString directory ++ "\" is current directory.").toList ++ lineEnd = _
  rw [hcode]
  simp only [String.toList_append, List.cons_append, List.append_assoc]
  rfl

namespace Conversation

open Exchange

variable {σ : Type} [Pipeline σ] {service : Service}

/-! ## Asking

The reply to `PWD` has the text of the path between quotation marks, and the client stays where it is. -/

/-- **`PWD` writes where the client is**, and the client stays there. -/
theorem pwd_take {c : Conversation} {replies : List Reply} (h : InStep c replies) (hverdict : c.verdict = .goesOn)
    (hin : c.client.loggedIn = true) {ask : Turn σ} (hinput : ask.input = .line "PWD\r\n".toUTF8.toList)
    (hlength : "PWD\r\n".utf8ByteSize ≤ service.config.maxCommandLength) :
    let asked := c.take service ask
    asked.written = c.written ++ Client.wireBytes (Reply.whereabouts c.client.cursor.current) ∧
      asked.verdict = .goesOn ∧ asked.client.loggedIn = true ∧ asked.client.cursor = c.client.cursor := by
  intro asked
  have hrequest : Request.ofLine "PWD\r\n" = ⟨"PWD", none⟩ := by decide
  have hverb : Command.ofVerb? (Request.ofLine "PWD\r\n").verb = some .printDirectory := by
    rw [hrequest]
    decide
  have hsome : (Request.ofLine "PWD\r\n").verb ≠ "" := by
    rw [hrequest]
    decide
  let x : Exchange σ := ((c.enter ask).begun "PWD\r\n").reset
  let reply := Reply.whereabouts c.client.cursor.current
  have htake : (c.enter ask).take service ask.input = (.ofSent (x.answer reply).1, (x.answer reply).2) := by
    rw [hinput, (take_text hlength hsome).2]
    exact dispatch_eq_run hverb rfl (.inl hin)
  -- the line is logged and the state reset before the one reply
  have hsends := (sends_answer x reply).after (((c.enter ask).writes_begun "PWD\r\n").trans (writes_reset _))
  have hok : (x.answer reply).1 = .ok () := hsends.obliging h.obliging
  obtain ⟨hclient, -, hgoes⟩ := take_of_goesOn service hverdict ask
  rw [htake] at hclient hgoes
  have hstays : asked.client.loggedIn = true ∧ asked.client.cursor = c.client.cursor := by
    rw [hclient, answer_snd]
    exact ⟨hin, rfl⟩
  refine ⟨?_, hgoes.trans (congrArg Verdict.ofSent hok), hstays⟩
  -- nothing is queued before or after, so what was written is all that was to be written
  have hstream := hsends.stream
  rw [Outgoing.stream, hsends.settled hok, List.append_nil] at hstream
  have hwritten : (c.enter ask).client.outgoing.stream = c.written := by
    show c.client.outgoing.stream = _
    rw [Outgoing.stream, h.settled, List.append_nil]
    rfl
  rw [hwritten, repliesOf_append] at hstream
  show asked.client.outgoing.receiver.taken = _
  rw [hclient, hstream]
  exact congrArg (c.written ++ ·) (List.append_nil _)

/-! ## Going back

The text comes back as an argument. Nothing in front of it is lost, because it begins with a slash, but white space at
its end is. -/

/-- **The text of a directory leads back to it** from there, just if there is no white space at its end. -/
theorem cwd_take {c : Conversation} (hverdict : c.verdict = .goesOn) (hin : c.client.loggedIn = true) {path : String}
    (hpath : toString c.client.cursor.current = path) {go : Turn σ}
    (hinput : go.input = .line (Request.line ⟨"CWD", some path⟩).toUTF8.toList)
    (hlength : (Request.line ⟨"CWD", some path⟩).utf8ByteSize ≤ service.config.maxCommandLength)
    (hexists : c.client.cursor.current ∈ go.tree) :
    let gone := c.take service go
    codesOf (addedTo c.effects gone.effects) = [250] ∧ gone.client.cursor = c.client.cursor ↔
      trimEnd path.toList = path.toList := by
  intro gone
  subst hpath
  -- the argument is trimmed on its way to the command, and a path has no white space in front
  let text := String.ofList (trimEnd (toString c.client.cursor.current).toList)
  obtain ⟨htrim, hsome⟩ := Path.trim_toString c.client.cursor.current
  have hrequest : Request.ofLine (Request.line ⟨"CWD", some (toString c.client.cursor.current)⟩) =
      ⟨"CWD", some text⟩ := by
    rw [Request.ofLine_line_of_trim (by decide) (by decide) (by decide) hsome, htrim]
  have hverb : Command.ofVerb? "CWD" = some .changeDirectory := by decide
  have hword : (Request.ofLine (Request.line ⟨"CWD", some (toString c.client.cursor.current)⟩)).verb ≠ "" := by
    rw [hrequest]
    exact show "CWD" ≠ "" by decide
  have hexecuted := (take_text (x := c.enter go) hlength hword).1
  rw [hrequest, ← hinput] at hexecuted
  obtain ⟨added, hhistory, hattended⟩ := attended_take (x := c.enter go) hexecuted hin
  obtain ⟨hclient, heffects, -⟩ := take_of_goesOn service hverdict go
  have hcodes : codesOf (addedTo c.effects gone.effects) = codesOf added := by
    rw [heffects]
    exact congrArg codesOf (addedTo_eq hhistory)
  obtain ⟨hanswered, hthere⟩ := hattended.entered hverb text rfl
  have hlookup : (c.enter go).lookup text = c.client.cursor.current ↔ _ :=
    Path.resolve_trimEnd_iff c.client.cursor.current c.client.cursor.current
  rw [hcodes, hclient, ← hlookup]
  constructor
  · rintro ⟨hyes, hsame⟩
    exact (hthere hyes).symm.trans (congrArg Cursor.current hsame)
  · intro hback
    have hmem : (c.enter go).lookup text ∈ (c.enter go).tree := hback.symm ▸ hexists
    have hyes : codesOf added = [250] := (codes_iff_of_answered (by decide) hanswered).1.2 hmem
    exact ⟨hyes, congrArg Cursor.mk ((hthere hyes).trans hback)⟩

/--
**The path that `PWD` prints leads back.** A connection that is greeted and takes what it is sent has heard some lines,
goes on, and is logged in. Let `P` be the text of the directory that the client is in, and let the line `CWD P` not be
too long. `PWD` is answered by 257 with `P` between the quotation marks. If the directory exists when the line `CWD P`
is heard behind that, then the line is answered by 250 and leaves the client where it was, unless `P` ends in white
space, which is not part of an argument.
-/
theorem printed_leads_back (service : Service) (peer here : Endpoint)
    {respond : (offers taken : Nat) → WriteResponse} (hobliging : (Receiver.mk respond 0 []).Obliging)
    {lines : List Bytes} (hlines : ∀ bytes ∈ lines, 10 ∉ bytes.dropLast) {turns : List (Turn σ)}
    (hinputs : turns.map Turn.input = lines.map .line) :
    let c := (greeted peer here respond).after service turns
    let path := toString c.client.cursor.current
    c.verdict = .goesOn → c.client.loggedIn = true →
    (Request.line ⟨"CWD", some path⟩).utf8ByteSize ≤ service.config.maxCommandLength →
    ∀ ask go : Turn σ, ask.input = .line "PWD\r\n".toUTF8.toList →
      go.input = .line (Request.line ⟨"CWD", some path⟩).toUTF8.toList → c.client.cursor.current ∈ go.tree →
      let asked := c.take service ask
      let gone := asked.take service go
      asked.written = c.written ++ ("257 \"" ++ path ++ "\" is current directory.\r\n").toUTF8.toList ∧
        (codesOf (addedTo asked.effects gone.effects) = [250] ∧ gone.client.cursor = c.client.cursor ↔
          trimEnd path.toList = path.toList) := by
  intro c path hverdict hin hlength ask go hask hgo hexists asked gone
  obtain ⟨groups, hstep, -⟩ := (inStep_greeted peer here hobliging).after service rfl hlines hinputs
  -- if the line with the path is not too long, a bare PWD is not
  have hshort : "PWD\r\n".utf8ByteSize ≤ service.config.maxCommandLength := by
    have hsize : (Request.line ⟨"CWD", some path⟩).utf8ByteSize = 3 + 1 + path.utf8ByteSize + 2 := by
      show ("CWD" ++ " " ++ path ++ "\r\n").utf8ByteSize = _
      rw [String.utf8ByteSize_append, String.utf8ByteSize_append, String.utf8ByteSize_append]
      rfl
    have hfive : "PWD\r\n".utf8ByteSize = 5 := rfl
    omega
  obtain ⟨hwritten, hgoes, hstill, hcursor⟩ := pwd_take hstep hverdict hin hask hshort
  have hpath : toString asked.client.cursor.current = path := congrArg (fun cursor => toString cursor.current) hcursor
  -- PWD has not moved the client, so the text leads back from the same place
  have hback := cwd_take hgoes hstill hpath hgo hlength (hcursor.symm ▸ hexists)
  rw [hcursor] at hback
  refine ⟨?_, hback⟩
  rw [hwritten, Reply.wireBytes_whereabouts hstep.plain.place]

/-- A client that goes into a directory, asks where it is, and goes back there, takes five bytes at a time. -/
theorem printed_leads_back_of_a :
    let service : Service := { config := {}, credentials := .anonymous }
    let peer : Endpoint := ⟨.v4 .loopback, 40000⟩
    let here : Endpoint := ⟨.v4 .loopback, 2121⟩
    let respond : (offers taken : Nat) → WriteResponse := fun _ _ => .take 5
    let lines : List Bytes := ["USER ftp\r\n", "PASS x\r\n", "CWD a\r\n"].map fun line => line.toUTF8.toList
    let hears (bytes : Bytes) : Turn Memory :=
      ⟨.line bytes, (Tree.empty.create (Path.root.resolve "a")).2, {}, {}, {}⟩
    let c := (greeted peer here respond).after service (lines.map hears)
    let asked := c.take service (hears "PWD\r\n".toUTF8.toList)
    let gone := asked.take service (hears (Request.line ⟨"CWD", some "/a"⟩).toUTF8.toList)
    (Receiver.mk respond 0 []).Obliging ∧ (∀ bytes ∈ lines, 10 ∉ bytes.dropLast) ∧
      (lines.map hears).map Turn.input = lines.map .line ∧ c.verdict = .goesOn ∧ c.client.loggedIn = true ∧
      toString c.client.cursor.current = "/a" ∧
      asked.written = c.written ++ "257 \"/a\" is current directory.\r\n".toUTF8.toList ∧
      codesOf (addedTo asked.effects gone.effects) = [250] ∧ gone.client.cursor = c.client.cursor := by
  intro service peer here respond lines hears c asked gone
  have hobliging : (Receiver.mk respond 0 []).Obliging := fun _ _ => ⟨nofun, nofun⟩
  have hlines : ∀ bytes ∈ lines, 10 ∉ bytes.dropLast := by decide +kernel
  have hinputs : (lines.map hears).map Turn.input = lines.map .line := List.map_map
  have hverdict : c.verdict = .goesOn := by decide +kernel
  have hin : c.client.loggedIn = true := by decide +kernel
  have hpath : toString c.client.cursor.current = "/a" := by decide +kernel
  have hexists : c.client.cursor.current ∈ (Tree.empty.create (Path.root.resolve "a")).2 := by decide +kernel
  have hback := printed_leads_back service peer here hobliging hlines hinputs hverdict hin
  rw [hpath] at hback
  obtain ⟨hwritten, hreturns⟩ := hback (by decide +kernel) (hears "PWD\r\n".toUTF8.toList)
    (hears (Request.line ⟨"CWD", some "/a"⟩).toUTF8.toList) rfl rfl hexists
  obtain ⟨hcodes, hsame⟩ := hreturns.2 (by decide)
  exact ⟨hobliging, hlines, hinputs, hverdict, hin, hpath, hwritten, hcodes, hsame⟩

/-- A client makes a directory whose name ends in a space, which the slash behind it keeps from being trimmed, and goes
there. The path that `PWD` prints is not what is left of it in the argument of `CWD`. -/
theorem printed_is_refused :
    ∃ (s : Server Memory) (c : Connection),
      ({ service := ⟨{}, .anonymous⟩, pipeline := {} } : Server Memory).runSteps
        (Server.visit ["USER ftp\r\n", "PASS x\r\n", "MKD a /\r\n", "CWD a /\r\n", "PWD\r\n", "CWD /a \r\n"]) = some s ∧
      s.connection? 0 0 = some c ∧ c.client.cursor.current ∈ s.tree ∧
      (Request.line ⟨"CWD", some "/a "⟩).utf8ByteSize ≤ s.service.config.maxCommandLength ∧
      (repliesOf c.effects.reverse).drop 3 =
        [⟨257, "\"/a \" directory created."⟩, ⟨250, "Directory changed to /a "⟩,
          ⟨257, "\"/a \" is current directory."⟩, ⟨550, "/a: No such directory."⟩] := by
  -- trimming takes the blank off the second argument, and so the name of another directory is looked up
  have hrun : (({ service := ⟨{}, .anonymous⟩, pipeline := {} } : Server Memory).runSteps
      (Server.visit ["USER ftp\r\n", "PASS x\r\n", "MKD a /\r\n", "CWD a /\r\n", "PWD\r\n", "CWD /a \r\n"])).any
      (fun s => (s.connection? 0 0).any fun c => decide (c.client.cursor.current ∈ s.tree ∧
        (Request.line ⟨"CWD", some "/a "⟩).utf8ByteSize ≤ s.service.config.maxCommandLength ∧
        (repliesOf c.effects.reverse).drop 3 =
          [⟨257, "\"/a \" directory created."⟩, ⟨250, "Directory changed to /a "⟩,
            ⟨257, "\"/a \" is current directory."⟩, ⟨550, "/a: No such directory."⟩])) = true := by decide +kernel
  obtain ⟨s, hs, hany⟩ := (Option.any_eq_true _ _).1 hrun
  obtain ⟨c, hc, hstate⟩ := (Option.any_eq_true _ _).1 hany
  exact ⟨s, c, hs, hc, of_decide_eq_true hstate⟩

end Conversation

end FtpIntake

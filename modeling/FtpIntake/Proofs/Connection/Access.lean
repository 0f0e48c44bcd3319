import FtpIntake.Proofs.Connection.Dialogue
import FtpIntake.Proofs.Request

/-!
# Which credentials let a client in

A service accepts credentials that do not let anybody in. Whether a name and a password can be used is decided in three
places: when the service is made, when a command line is read, and when the login is checked, and the first of them asks
for less than the others. It wants a name that is not blank and a password that is not empty. A command line loses the
white space around its argument, and the login takes no blank text, none with a line end or a null character in it, and
none that is too long.

* **`Credentials.Presentable`** is what it takes to get a text through a command line and past the login.
* **`presentable_of_loggedIn`** says that nobody gets in without it, whatever is sent.
* **`Conversation.loggedIn_iff`** is the exact condition on which the two lines of a login get the client in.

The condition is exact in both directions. To show that it is needed, a login is followed back to the lines that have
vouched for it; to show that it is enough, the two lines are sent.
-/

namespace FtpIntake

open Text

/-! ## What can be presented

A name and a password reach the server in lines, so they have to survive being written, sent, cut and trimmed. What
does not is refused by every service, whatever was configured. -/

namespace Credentials

/-- A name or a password that a client can give: it comes out of a command line as it was put in, and the login takes
it. -/
def Presentable (s : String) : Prop :=
  isWellFormed s = true ∧ IsTrimmed s.toList

instance (s : String) : Decidable (Presentable s) :=
  inferInstanceAs (Decidable (_ ∧ _))

variable {s : String}

/-- A text that the login takes is not empty. -/
theorem ne_of_isWellFormed (h : isWellFormed s = true) : s ≠ "" := by
  rintro rfl
  exact absurd h (by decide)

/-- Nor does it have a line feed in it. -/
theorem feed_notMem_of_isWellFormed (h : isWellFormed s = true) : '\n' ∉ s.toList := by
  intro hfeed
  unfold isWellFormed at h
  rw [Bool.and_eq_true, List.all_eq_true] at h
  exact absurd (h.2 '\n' hfeed) (by decide)

/-- The service keeps the credentials as they were configured. -/
theorem eq_of_make {name password : String} {credentials : Credentials}
    (h : make (some name) (some password) = .ok credentials) : credentials = .user name password := by
  unfold make at h
  dsimp only at h
  split at h
  · cases h
  · split at h
    · cases h
    · exact (Except.ok.inj h).symm

end Credentials

open Credentials

/-- A service that was made goes by its configuration, and by the name and the password in it. -/
theorem Service.eq_of_make {config : Config} {service : Service} {name password : String}
    (h : make config = .ok service) (hname : config.username = some name)
    (hpassword : config.password = some password) : service = ⟨config, .user name password⟩ := by
  unfold make at h
  rw [hname, hpassword] at h
  cases hmade : Credentials.make (some name) (some password) with
  | error fault =>
    rw [hmade] at h
    cases h
  | ok credentials =>
    obtain rfl := Credentials.eq_of_make hmade
    rw [hmade] at h
    cases hcheck : config.check with
    | error cause =>
      simp only [hcheck] at h
      cases h
    | ok =>
      simp only [hcheck] at h
      cases h
      rfl

/-! ## What was executed

What is executed in a conversation comes from lines that were read in one of its turns. -/

/-- What is executed is what can be read of a line that is not too long. -/
theorem Input.exists_of_executed? {service : Service} {input : Input} {r : Request}
    (h : input.executed? service = some r) :
    ∃ bytes line, input = .line bytes ∧ String.fromUTF8? ⟨bytes.toArray⟩ = some line ∧ r = Request.ofLine line ∧
      line.utf8ByteSize ≤ service.config.maxCommandLength := by
  cases input with
  | finished => cases h
  | failed kind => cases h
  | line bytes =>
    unfold executed? at h
    dsimp only at h
    -- a line that is not in UTF-8 or has too many bytes is not executed
    split at h
    · cases h
    · next line hread =>
      split at h
      · cases h
      · next hshort =>
        exact ⟨bytes, line, rfl, hread, (Option.some.inj h).symm, Nat.not_lt.1 fun hlong => hshort (.inl hlong)⟩

namespace Conversation

open Exchange

variable {σ : Type} [Pipeline σ]

/-- Whatever was executed was read in some turn. Induction on the turns. -/
theorem mem_executed_after (service : Service) {c : Conversation} {turns : List (Turn σ)} {r : Request}
    (h : r ∈ (c.after service turns).executed) :
    r ∈ c.executed ∨ ∃ turn ∈ turns, turn.input.executed? service = some r := by
  induction turns generalizing c with
  | nil => exact .inl h
  | cons turn turns ih =>
    -- what was executed in the first turn, or in a later one
    rcases ih h with htaken | ⟨later, hmem, hexecuted⟩
    · unfold Conversation.take at htaken
      cases hverdict : c.verdict with
      | quits | breaks =>
        rw [hverdict] at htaken
        exact .inl htaken
      | goesOn =>
        rw [hverdict] at htaken
        rcases List.mem_append.1 htaken with hbefore | hnow
        · exact .inl hbefore
        · exact .inr ⟨turn, List.mem_cons_self, Option.mem_toList.1 hnow⟩
    · exact .inr ⟨later, List.mem_cons_of_mem _ hmem, hexecuted⟩

/-- Of some texts that are sent as lines, what is executed is read of one that is not too long. -/
theorem exists_text_of_executed {service : Service} {c : Conversation} (hnone : c.executed = []) {turns : List (Turn σ)}
    {texts : List String} (hinputs : turns.map Turn.input = texts.map fun text => .line text.toUTF8.toList)
    {r : Request} (h : r ∈ (c.after service turns).executed) :
    ∃ text ∈ texts, r = Request.ofLine text ∧ text.utf8ByteSize ≤ service.config.maxCommandLength := by
  rcases mem_executed_after service h with hbefore | ⟨turn, hturn, hexecuted⟩
  · rw [hnone] at hbefore
    exact absurd hbefore List.not_mem_nil
  obtain ⟨bytes, line, hinput, hread, hrequest, hlength⟩ := Input.exists_of_executed? hexecuted
  have hmem : turn.input ∈ turns.map Turn.input := List.mem_map_of_mem hturn
  rw [hinputs, hinput] at hmem
  obtain ⟨text, htext, heq⟩ := List.mem_map.1 hmem
  obtain rfl := Input.line.inj heq
  obtain rfl := Option.some.inj ((fromUTF8?_toUTF8 text).symm.trans hread)
  exact ⟨text, htext, hrequest, hlength⟩

/-! ## Nobody else gets in

A client that is logged in has given its name and its password in lines, so both could be presented. -/

omit [Pipeline σ] in
/-- A client that was greeted has given no name yet. -/
theorem vouched_greeted (credentials : Credentials) (peer here : Endpoint)
    (respond : (offers taken : Nat) → WriteResponse) : Vouched credentials (greeted peer here respond) := by
  let client : Client := { peer, here, outgoing := { receiver := { respond } } }
  let effects : List Effect := .replyQueued Reply.welcome :: (Connection.accepted peer here).effects
  have hclient : (client.answer Reply.welcome).2 = { client with outgoing := (client.queue Reply.welcome).sentOff } :=
    Client.flushAll_snd (client.queue Reply.welcome)
  have hgreeted : greeted peer here respond = admitted peer here (client.queue Reply.welcome).sentOff effects :=
    congrArg (fun client => (⟨client, effects, .goesOn, []⟩ : Conversation)) hclient
  rw [hgreeted]
  exact vouched_admitted credentials peer here _ effects

/-- Who is logged in has presented the name and the password in two requests that were executed. -/
theorem executed_of_loggedIn {service : Service} {name password : String}
    (hcredentials : service.credentials = .user name password) (peer here : Endpoint)
    (respond : (offers taken : Nat) → WriteResponse) {turns : List (Turn σ)}
    (h : ((greeted peer here respond).after service turns).client.loggedIn = true) :
    let c := (greeted peer here respond).after service turns
    (⟨"USER", some name⟩ ∈ c.executed ∧ isWellFormed name = true) ∧
      ⟨"PASS", some password⟩ ∈ c.executed ∧ isWellFormed password = true := by
  intro c
  have hvouched : Vouched service.credentials c := (vouched_greeted _ peer here respond).after turns
  obtain ⟨given, -, before, between, presented, later, hexecuted, hname, hpassword, -⟩ := hvouched.loggedIn h
  rw [hcredentials] at hname hpassword
  obtain ⟨rfl, hgiven⟩ := checkUser_eq_ok_iff.1 hname
  obtain ⟨-, hpresented, hformed⟩ := checkPassword_eq_ok_iff.1 hpassword
  -- a `PASS` without an argument presents an empty password, which is not well formed
  cases presented with
  | none => exact absurd rfl (ne_of_isWellFormed hformed)
  | some presented =>
    obtain rfl : presented = password := hpresented
    rw [hexecuted]
    exact ⟨⟨by simp, hgiven⟩, by simp, hformed⟩

/-- **Whoever gets in could present his name and his password**, whatever else was sent. -/
theorem presentable_of_loggedIn {service : Service} {name password : String}
    (hcredentials : service.credentials = .user name password) (peer here : Endpoint)
    (respond : (offers taken : Nat) → WriteResponse) {turns : List (Turn σ)}
    (h : ((greeted peer here respond).after service turns).client.loggedIn = true) :
    Presentable name ∧ Presentable password := by
  have htrimmed {verb argument : String}
      (hmem : ⟨verb, some argument⟩ ∈ ((greeted peer here respond).after service turns).executed) :
      IsTrimmed argument.toList := by
    rcases mem_executed_after service hmem with hbefore | ⟨turn, -, hexecuted⟩
    · exact absurd hbefore List.not_mem_nil
    · obtain ⟨bytes, line, -, -, hrequest, -⟩ := Input.exists_of_executed? hexecuted
      exact (Request.isTrimmed_of_argument (congrArg Request.argument hrequest).symm).1
  obtain ⟨⟨huser, hname⟩, hpass, hpassword⟩ := executed_of_loggedIn hcredentials peer here respond h
  exact ⟨⟨hname, htrimmed huser⟩, hpassword, htrimmed hpass⟩

/-! ## The two lines of a login

The other way round: what can be presented is presented, if the lines are not too long for the server. -/

/-- The lines that give a name and a password. -/
def loginText (name password : String) : String :=
  Request.line ⟨"USER", some name⟩ ++ Request.line ⟨"PASS", some password⟩

omit [Pipeline σ] in
/-- A line of the login is read as what was to be said with it. -/
theorem ofLine_line {verb argument : String} (hverb : verb = "USER" ∨ verb = "PASS")
    (hargument : Presentable argument) :
    Request.ofLine (Request.line ⟨verb, some argument⟩) = ⟨verb, some argument⟩ := by
  have hnonempty : argument ≠ "" := ne_of_isWellFormed hargument.1
  rcases hverb with rfl | rfl
  · exact Request.ofLine_line (by decide) (by decide) (by decide) hargument.2 hnonempty
  · exact Request.ofLine_line (by decide) (by decide) (by decide) hargument.2 hnonempty

omit [Pipeline σ] in
/-- The two lines arrive as two lines. -/
theorem cutLines_loginText {name password : String} (hname : Presentable name) (hpassword : Presentable password) :
    cutLines (loginText name password).toUTF8.toList =
      [Request.line ⟨"USER", some name⟩, Request.line ⟨"PASS", some password⟩].map fun line => line.toUTF8.toList := by
  have hline (verb argument : String) : (Request.line ⟨verb, some argument⟩).toList =
      (verb.toList ++ (' ' :: argument.toList)) ++ Reply.lineEnd := by
    show (verb ++ " " ++ argument ++ "\r\n").toList = _
    simp only [String.toList_append, List.append_assoc]
    rfl
  have hfree (verb argument : String) (hverb : '\n' ∉ verb.toList) (hargument : Presentable argument) :
      '\n' ∉ verb.toList ++ (' ' :: argument.toList) := by
    rw [List.mem_append, List.mem_cons, not_or, not_or]
    exact ⟨hverb, by decide, feed_notMem_of_isWellFormed hargument.1⟩
  rw [List.map_cons, List.map_singleton, loginText, toList_toUTF8, toList_toUTF8, toList_toUTF8, String.toList_append,
    utf8_append, hline, hline, Reply.cutLines_utf8 (hfree "USER" name (by decide) hname)]
  -- behind the second line there is nothing
  have hlast := Reply.cutLines_utf8 (hfree "PASS" password (by decide) hpassword) []
  rw [List.append_nil] at hlast
  rw [hlast]
  rfl

/-- A line of a control command that need not wait for the login is run as that command. -/
theorem take_eq_control {service : Service} {x : Exchange σ} {line : String} {command : ControlCommand}
    (hlength : line.utf8ByteSize ≤ service.config.maxCommandLength)
    (hverb : Command.ofVerb? (Request.ofLine line).verb = some (.control command))
    (hallowed : (Command.control command).allowedBeforeLogin = true) :
    x.take service (.line line.toUTF8.toList) =
      (.ofStatus ((x.begun line).control service.control command (Request.ofLine line).argument).1,
        ((x.begun line).control service.control command (Request.ofLine line).argument).2) := by
  have hsome : (Request.ofLine line).verb ≠ "" := by
    intro hempty
    rw [hempty] at hverb
    cases hverb
  rw [(take_text hlength hsome).2]
  exact dispatch_eq_control hverb (.inr hallowed)

/-- **Such a line is answered as its command decides**, and makes of the login what it decides. -/
theorem take_control {service : Service} {c : Conversation} (hverdict : c.verdict = .goesOn)
    (hobliging : c.client.outgoing.receiver.Obliging) {turn : Turn σ} {line : String} {r : Request}
    {command : ControlCommand} {decision : Decision} (hinput : turn.input = .line line.toUTF8.toList)
    (hlength : line.utf8ByteSize ≤ service.config.maxCommandLength) (hrequest : Request.ofLine line = r)
    (hverb : Command.ofVerb? r.verb = some (.control command))
    (hallowed : (Command.control command).allowedBeforeLogin = true)
    (hdecision : Decision.make service.control turn.circumstances.bind (c.client.begin r.verb) command r.argument =
      decision) :
    (c.take service turn).verdict = .ofStatus (.ok decision.status) ∧
      (c.take service turn).client.login = decision.client.login ∧
      codesOf (c.take service turn).effects.reverse = codesOf c.effects.reverse ++ [decision.reply.code] ∧
      (c.take service turn).client.outgoing.receiver.Obliging := by
  subst hrequest
  let x : Exchange σ := (c.enter turn).begun line
  have hbegun := (c.enter turn).writes_begun line
  have hdecided : Decision.make service.control x.circumstances.bind x.client command (Request.ofLine line).argument =
      decision := hdecision
  obtain ⟨y, hreset, -, -, hcontrol⟩ :=
    control_of_obliging service.control command (Request.ofLine line).argument (hbegun.obliging_iff.2 hobliging)
  have hlogin := (x.login_control service.control command (Request.ofLine line).argument).1
  rw [hcontrol, hdecided] at hlogin
  rw [hdecided] at hcontrol
  -- the line is recorded, the state cleared and the reply sent, and nothing else is
  have hrecord := (hbegun.trans hreset).trans (sends_answer y decision.reply).toWrites
  have htake : (c.enter turn).take service turn.input =
      (.ofStatus (.ok decision.status), (y.answer decision.reply).2) := by
    rw [hinput, take_eq_control hlength hverb hallowed]
    show (Verdict.ofStatus (x.control service.control command (Request.ofLine line).argument).1,
      (x.control service.control command (Request.ofLine line).argument).2) = _
    rw [hcontrol]
  unfold Conversation.take
  rw [hverdict, htake]
  refine ⟨rfl, hlogin, ?_, hrecord.obliging_iff.2 hobliging⟩
  show codesOf (y.answer decision.reply).2.history = _
  rw [hrecord.history, codesOf, codesOf, repliesOf_append, List.map_append]
  rfl

omit [Pipeline σ] in
/-- An accepted name makes the server ask for the password. -/
theorem decision_user {service : Service} {name : String} (h : service.credentials.checkUser name = .ok ())
    (bind : DataChannel.Binder) (client : Client) :
    Decision.make service.control bind client .user (some name) =
      .succeed { client.logout with user := name } 331 ("User name okay, need password for " ++ name ++ ".") := by
  show Decision.user service.credentials client (some name) = _
  unfold Decision.user
  dsimp only
  rw [h]

omit [Pipeline σ] in
/-- An accepted password logs the client in, if it has given its name. -/
theorem decision_pass {service : Service} {name password : String}
    (h : service.credentials.checkPassword name password = .ok ()) (bind : DataChannel.Binder) (client : Client)
    (hlogin : client.login = (some name, false)) :
    Decision.make service.control bind client .pass (some password) =
      .succeed { client with loggedIn := true } 230 "User logged in, proceed." := by
  have hout : ¬client.loggedIn = true := by
    rw [show client.loggedIn = false from congrArg Prod.snd hlogin]
    exact Bool.false_ne_true
  have huser : client.user = some name := congrArg Prod.fst hlogin
  show Decision.pass service.credentials client (some password) = _
  unfold Decision.pass
  rw [if_neg hout, huser]
  dsimp only
  rw [Option.getD_some, h]

/-- **The two lines of a login get a client in** whose name and password can be presented, unless one of them is too
long. -/
theorem login_of_presentable {service : Service} {name password : String}
    (hcredentials : service.credentials = .user name password) (hname : Presentable name)
    (hpassword : Presentable password)
    (huser : (Request.line ⟨"USER", some name⟩).utf8ByteSize ≤ service.config.maxCommandLength)
    (hpass : (Request.line ⟨"PASS", some password⟩).utf8ByteSize ≤ service.config.maxCommandLength)
    {c : Conversation} (hverdict : c.verdict = .goesOn) (hobliging : c.client.outgoing.receiver.Obliging)
    {first second : Turn σ} (hfirst : first.input = .line (Request.line ⟨"USER", some name⟩).toUTF8.toList)
    (hsecond : second.input = .line (Request.line ⟨"PASS", some password⟩).toUTF8.toList) :
    ((c.take service first).take service second).client.loggedIn = true ∧
      codesOf ((c.take service first).take service second).effects.reverse =
        codesOf c.effects.reverse ++ [331, 230] := by
  have hofUser := ofLine_line (.inl rfl) hname
  have hofPass := ofLine_line (.inr rfl) hpassword
  have hcheckUser : service.credentials.checkUser name = .ok () := by
    rw [hcredentials]
    exact checkUser_eq_ok_iff.2 ⟨rfl, hname.1⟩
  have hcheckPassword : service.credentials.checkPassword name password = .ok () := by
    rw [hcredentials]
    exact checkPassword_eq_ok_iff.2 ⟨rfl, rfl, hpassword.1⟩
  have huserVerb : Command.ofVerb? "USER" = some (.control .user) := by decide
  have hpassVerb : Command.ofVerb? "PASS" = some (.control .pass) := by decide
  -- first the name, then the password for this name
  obtain ⟨hgoes, hnamed, hcodes, hobliging'⟩ := take_control hverdict hobliging hfirst huser hofUser huserVerb rfl
    (decision_user hcheckUser first.circumstances.bind (c.client.begin "USER"))
  obtain ⟨-, hadmitted, hcodes', -⟩ := take_control hgoes hobliging' hsecond hpass hofPass hpassVerb rfl
    (decision_pass hcheckPassword second.circumstances.bind ((c.take service first).client.begin "PASS") hnamed)
  refine ⟨congrArg Prod.snd hadmitted, ?_⟩
  rw [hcodes', hcodes, List.append_assoc]
  rfl

omit [Pipeline σ] in
theorem feed_notMem_dropLast_of_mem_cutLines {bytes line : Bytes} (h : line ∈ cutLines bytes) : 10 ∉ line.dropLast := by
  induction bytes generalizing line with
  | nil => exact absurd h List.not_mem_nil
  | cons b rest ih =>
    unfold cutLines at h
    split at h
    · rcases List.mem_cons.1 h with rfl | hrest
      · exact List.not_mem_nil
      · exact ih hrest
    next hb =>
    split at h
    · obtain rfl := List.mem_singleton.1 h
      exact List.not_mem_nil
    next next lines heq =>
    rw [heq] at ih
    rcases List.mem_cons.1 h with rfl | hlines
    · -- the line goes on with what was the first line of the rest
      cases next with
      | nil => exact List.not_mem_nil
      | cons b' next =>
        rw [List.dropLast_cons_of_ne_nil (List.cons_ne_nil b' next), List.mem_cons, not_or]
        exact ⟨Ne.symm hb, ih List.mem_cons_self⟩
    · exact ih (List.mem_cons_of_mem _ hlines)

/-- If the two lines of a login get anybody in, neither of them is too long to be read. -/
theorem short_of_loggedIn {service : Service} {name password : String}
    (hcredentials : service.credentials = .user name password) (hname : Presentable name)
    (hpassword : Presentable password) (peer here : Endpoint) (respond : (offers taken : Nat) → WriteResponse)
    {turns : List (Turn σ)}
    (hinputs : turns.map Turn.input = (cutLines (loginText name password).toUTF8.toList).map .line)
    (h : ((greeted peer here respond).after service turns).client.loggedIn = true) :
    (Request.line ⟨"USER", some name⟩).utf8ByteSize ≤ service.config.maxCommandLength ∧
      (Request.line ⟨"PASS", some password⟩).utf8ByteSize ≤ service.config.maxCommandLength := by
  obtain ⟨⟨huser, -⟩, hpass, -⟩ := executed_of_loggedIn hcredentials peer here respond h
  rw [cutLines_loginText hname hpassword, List.map_map] at hinputs
  obtain ⟨first, hfirst, huserLine, huserLength⟩ := exists_text_of_executed rfl hinputs huser
  obtain ⟨second, hsecond, hpassLine, hpassLength⟩ := exists_text_of_executed rfl hinputs hpass
  have hofUser := ofLine_line (.inl rfl) hname
  have hofPass := ofLine_line (.inr rfl) hpassword
  constructor
  · -- the request that gives the name cannot have been read of the line that gives the password
    rcases List.mem_pair.1 hfirst with rfl | rfl
    · exact huserLength
    · rw [hofPass] at huserLine
      exact absurd (congrArg Request.verb huserLine) (show "USER" ≠ "PASS" by decide)
  · rcases List.mem_pair.1 hsecond with rfl | rfl
    · rw [hofUser] at hpassLine
      exact absurd (congrArg Request.verb hpassLine) (show "PASS" ≠ "USER" by decide)
    · exact hpassLength

/--
**When the two lines of a login get a client in.** A service that was made for a name and a password greets a client,
who then sends these two in the two lines that are meant for it. The client reads 220, 331 and 230 and is logged in just
if both can be presented and neither line is too long. Where one of them cannot be presented, nobody is ever logged in,
whatever is sent.
-/
theorem loggedIn_iff {config : Config} {service : Service} {name password : String}
    (hservice : Service.make config = .ok service) (husername : config.username = some name)
    (hpassword : config.password = some password) (peer here : Endpoint)
    {respond : (offers taken : Nat) → WriteResponse} (hobliging : (Receiver.mk respond 0 []).Obliging)
    {turns : List (Turn σ)}
    (hinputs : turns.map Turn.input = (cutLines (loginText name password).toUTF8.toList).map .line) :
    let c := (greeted peer here respond).after service turns
    (c.client.loggedIn = true ∧ (Reply.decode c.written).1.map Reply.Received.code = [220, 331, 230] ↔
      Presentable name ∧ Presentable password ∧
        (Request.line ⟨"USER", some name⟩).utf8ByteSize ≤ config.maxCommandLength ∧
        (Request.line ⟨"PASS", some password⟩).utf8ByteSize ≤ config.maxCommandLength) ∧
    ∀ turns' : List (Turn σ), ((greeted peer here respond).after service turns').client.loggedIn = true →
      Presentable name ∧ Presentable password := by
  intro c
  obtain rfl := Service.eq_of_make hservice husername hpassword
  have hlockout (turns' : List (Turn σ))
      (h : ((greeted peer here respond).after ⟨config, .user name password⟩ turns').client.loggedIn = true) :
      Presentable name ∧ Presentable password :=
    presentable_of_loggedIn rfl peer here respond h
  refine ⟨?_, hlockout⟩
  have hstep := inStep_greeted peer here hobliging
  constructor
  · rintro ⟨hin, -⟩
    obtain ⟨hname, hpresented⟩ := hlockout turns hin
    exact ⟨hname, hpresented, short_of_loggedIn rfl hname hpresented peer here respond hinputs hin⟩
  · rintro ⟨hname, hpresented, huser, hpass⟩
    -- the exact replies are known from the codes, because the client is in step
    have hlines : ∀ bytes ∈ cutLines (loginText name password).toUTF8.toList, 10 ∉ bytes.dropLast :=
      fun bytes => feed_notMem_dropLast_of_mem_cutLines
    obtain ⟨groups, hafter, -⟩ := hstep.after ⟨config, .user name password⟩ rfl hlines hinputs
    rw [cutLines_loginText hname hpresented] at hinputs
    obtain ⟨first, rest, rfl, hfirst, hrest⟩ := List.map_eq_cons_iff.1 hinputs
    obtain ⟨second, rest, rfl, hsecond, hrest⟩ := List.map_eq_cons_iff.1 hrest
    obtain rfl := List.map_eq_nil_iff.1 hrest
    have hcredentials : (⟨config, .user name password⟩ : Service).credentials = .user name password := rfl
    obtain ⟨hin, hcodes⟩ :=
      login_of_presentable hcredentials hname hpresented huser hpass rfl hstep.obliging hfirst hsecond
    refine ⟨hin, ?_⟩
    have hgreeting : codesOf (greeted peer here respond).effects.reverse = [220] := congrArg (List.map _) hstep.record
    rw [hgreeting] at hcodes
    rw [hafter.written, Reply.decode_flatMap hafter.framed, ← hafter.record, List.map_map]
    exact hcodes

/-- A name and a password that get in. -/
theorem loggedIn_iff_of_alice :
    let config : Config := { username := "alice", password := "secret" }
    let service : Service := ⟨config, .user "alice" "secret"⟩
    let peer : Endpoint := ⟨.v4 .loopback, 40000⟩
    let here : Endpoint := ⟨.v4 .loopback, 2121⟩
    let respond : (offers taken : Nat) → WriteResponse := fun _ _ => .take 5
    let turns : List (Turn Memory) :=
      (cutLines (loginText "alice" "secret").toUTF8.toList).map fun bytes => ⟨.line bytes, Tree.empty, {}, {}, {}⟩
    Service.make config = .ok service ∧ config.username = some "alice" ∧ config.password = some "secret" ∧
      (Receiver.mk respond 0 []).Obliging ∧
      turns.map Turn.input = (cutLines (loginText "alice" "secret").toUTF8.toList).map .line ∧
      ((greeted peer here respond).after service turns).client.loggedIn = true ∧
      Presentable "alice" ∧ Presentable "secret" := by
  intro config service peer here respond turns
  have hservice : Service.make config = .ok service := by decide +kernel
  have hobliging : (Receiver.mk respond 0 []).Obliging := fun _ _ => ⟨nofun, nofun⟩
  have hinputs : turns.map Turn.input = (cutLines (loginText "alice" "secret").toUTF8.toList).map .line :=
    List.map_map
  have hname : Presentable "alice" := by decide +kernel
  have hpassword : Presentable "secret" := by decide +kernel
  have hiff := (loggedIn_iff hservice rfl rfl peer here hobliging hinputs).1
  exact ⟨hservice, rfl, rfl, hobliging, hinputs,
    (hiff.2 ⟨hname, hpassword, by decide +kernel, by decide +kernel⟩).1, hname, hpassword⟩

/-- A password that is accepted when the service is made and does not get anybody in: a space. -/
theorem not_loggedIn_of_blank_password :
    let config : Config := { username := "alice", password := " " }
    let service : Service := ⟨config, .user "alice" " "⟩
    let peer : Endpoint := ⟨.v4 .loopback, 40000⟩
    let here : Endpoint := ⟨.v4 .loopback, 2121⟩
    let turns : List (Turn Memory) :=
      (cutLines (loginText "alice" " ").toUTF8.toList).map fun bytes => ⟨.line bytes, Tree.empty, {}, {}, {}⟩
    let c := (greeted peer here fun _ _ => .takeAll).after service turns
    Service.make config = .ok service ∧ c.client.loggedIn = false ∧
      (Reply.decode c.written).1.map Reply.Received.code = [220, 331, 530] := by
  decide +kernel

end Conversation

end FtpIntake

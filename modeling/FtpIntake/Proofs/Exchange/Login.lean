import FtpIntake.Exchange.Control
import FtpIntake.Exchange.Run
import FtpIntake.Proofs.Exchange.Basic

/-!
# What a command does to the login

Three commands can change who a client is: `USER`, `PASS` and `QUIT`. All the others leave it alone, on every path
through them, whatever the tree, the pipeline and the network do.

The frame is proved from the inside out. A reply, the end of a command and the giving up of the channel do nothing to
who the client is, and these are what the commands consist of, besides their work on the tree and on the pipeline. So
there is a lemma for each part of a command, then one for each command that has several parts, and one for all commands.

* **`Client.login`** is the part of a client that says who it is. `Exchange.login_run` and `Decision.make_client` are
  the frame for all the commands that do not log in.
* **`LoginStep`** is what is left: a request keeps the login, gives a name, admits the client that has given one, or
  makes the server forget it. `Decision.loginStep_make` says so of every command of the control connection.
-/

namespace FtpIntake

/-- Who a client is, as far as the server has been told. -/
def Client.login (c : Client) : Option String × Bool :=
  (c.user, c.loggedIn)

/-- The two sides of its control connection, and who it is. -/
def Client.identity (c : Client) : (Endpoint × Endpoint) × (Option String × Bool) :=
  ((c.peer, c.here), c.login)

namespace Exchange

variable {σ : Type}

/-! ## The frame of the commands that do not log in

Who the client is stays the same through all of these. The equations are about the client as a whole, with the parts
put back that a command may change. -/

/-- Sending a reply moves bytes and nothing else. -/
@[simp] theorem identity_answer (x : Exchange σ) (r : Reply) : (x.answer r).2.client.identity = x.client.identity := by
  rw [answer_snd]
  rfl

@[simp] theorem identity_reset (x : Exchange σ) : x.reset.client.identity = x.client.identity :=
  rfl

@[simp] theorem identity_closeChannel (x : Exchange σ) : x.closeChannel.client.identity = x.client.identity :=
  rfl

/-- A command that needs an argument is refused without one, and else does what it does. -/
theorem identity_withArgument (x : Exchange σ) (argument : Option String)
    {run : Exchange σ → String → Sent × Exchange σ}
    (hrun : ∀ x argument, (run x argument).2.client.identity = x.client.identity) :
    (x.withArgument argument run).2.client.identity = x.client.identity := by
  cases argument with
  | none => exact identity_answer x.reset _
  | some argument => exact hrun x.reset argument

/-- Removing a directory changes the tree. -/
theorem identity_removeDirectory (x : Exchange σ) (argument : String) :
    (x.removeDirectory argument).2.client.identity = x.client.identity := by
  unfold removeDirectory
  dsimp only
  split
  · exact identity_answer _ _
  · split <;> exact identity_answer x _

/-- A client that moves is the same client in another place. -/
theorem identity_move (x : Exchange σ) (argument : String) : (x.move argument).2.client.identity = x.client.identity :=
  rfl

/-- So a change of the directory does nothing to who the client is, whether it succeeds or not. -/
theorem identity_changeDirectory (x : Exchange σ) (argument : String) :
    (x.changeDirectory argument).2.client.identity = x.client.identity := by
  have hmove := x.identity_move argument
  unfold changeDirectory
  cases hmoved : x.move argument with
  | mk moved x' =>
    rw [hmoved] at hmove
    cases moved <;> exact (identity_answer x' _).trans hmove

/-- `SIZE` and `MDTM` only look. -/
theorem identity_describe (x : Exchange σ) (argument fact : String) :
    (x.describe argument fact).2.client.identity = x.client.identity := by
  unfold describe
  split <;> exact identity_answer _ _

/-- A listing uses the data channel and sends replies. -/
theorem identity_sendListing (x : Exchange σ) (form : ListingForm) (directory : Path) :
    (x.sendListing form directory).2.client.identity = x.client.identity :=
  sendListing_keeps (fun x => x.client.identity) identity_answer (fun _ _ => rfl) x form directory

/-- All three forms of a listing, with the channel given up at the end. -/
theorem identity_list (x : Exchange σ) (form : ListingForm) (argument : Option String) :
    (x.list form argument).2.client.identity = x.client.identity := by
  show (x.reset.sendListing form (x.listingDirectory argument)).2.closeChannel.client.identity = _
  rw [identity_closeChannel, identity_sendListing, identity_reset]

theorem identity_announce (x : Exchange σ) (target : Path) : (x.announce target).client.identity = x.client.identity :=
  rfl

/-- Receiving an upload does nothing to the client, whichever way the wait for a factory and the upload itself end. -/
theorem identity_receive [Pipeline σ] (x : Exchange σ) (settings : StoreSettings) (target : Path)
    (stream : DataStream) : (x.receive settings target stream).2.client.identity = x.client.identity := by
  have hacquire : x.acquireFactory.2.client.identity = x.client.identity := by
    unfold acquireFactory
    dsimp only
    split <;> rfl
  unfold receive
  cases hacquired : x.acquireFactory with
  | mk factory x' =>
    rw [hacquired] at hacquire
    cases factory <;> exact hacquire

/-- Up to its final reply a `STOR` goes one of four ways: no target, no data connection, no factory, or an upload. -/
theorem identity_storeReply [Pipeline σ] (x : Exchange σ) (settings : StoreSettings) (argument : Option String) :
    (x.storeReply settings argument).2.client.identity = x.client.identity := by
  unfold storeReply
  cases x.storeTarget argument with
  | error failure => rfl
  | ok target =>
    have hopen : (x.announce target).openChannel.2.client.identity = x.client.identity := identity_announce x target
    dsimp only
    cases hopened : (x.announce target).openChannel with
    | mk opened x' =>
      rw [hopened] at hopen
      cases opened with
      | error fault => exact hopen
      | ok stream => exact (identity_receive x' settings target stream).trans hopen

/-- `STOR`, with its final reply and the channel given up. -/
theorem identity_store [Pipeline σ] (x : Exchange σ) (settings : StoreSettings) (argument : Option String) :
    (x.store settings argument).2.client.identity = x.client.identity := by
  show ((x.storeReply settings argument).2.answer
    (x.storeReply settings argument).1).2.reset.closeChannel.client.identity = _
  rw [identity_closeChannel, identity_reset, identity_answer, identity_storeReply]

/-- **No command but those of the control connection changes who the client is.** -/
theorem identity_run [Pipeline σ] (x : Exchange σ) (settings : StoreSettings) (command : Command)
    (argument : Option String) : (x.run settings command argument).2.client.identity = x.client.identity := by
  cases command with
  | control => rfl
  | makeDirectory => exact identity_withArgument x argument fun x argument => identity_answer _ _
  | removeDirectory => exact identity_withArgument x argument identity_removeDirectory
  | list form => exact identity_list x form argument
  | changeDirectory => exact identity_withArgument x argument identity_changeDirectory
  | changeToParent => exact identity_answer _ _
  | printDirectory => exact identity_answer _ _
  | size => exact identity_withArgument x argument fun x argument => identity_describe x argument _
  | modificationTime => exact identity_withArgument x argument fun x argument => identity_describe x argument _
  | store => exact identity_store x settings argument
  | help => exact identity_answer _ _
  | reject text => exact identity_answer _ _

theorem login_answer (x : Exchange σ) (r : Reply) : (x.answer r).2.client.login = x.client.login :=
  congrArg Prod.snd (x.identity_answer r)

/-- The same of the login alone. -/
theorem login_run [Pipeline σ] (x : Exchange σ) (settings : StoreSettings) (command : Command)
    (argument : Option String) : (x.run settings command argument).2.client.login = x.client.login :=
  congrArg Prod.snd (x.identity_run settings command argument)

end Exchange

/-! ## Commands of the control connection

What the client becomes is in the decision. The exchange around it adds only the reply. -/

namespace Decision

/-- A passive channel listens on the server's side of the control connection, for the client's side of it. -/
theorem listen_eq_ok {bind : DataChannel.Binder} {ports : List UInt16} {client client' : Client} {here : Endpoint}
    (h : listen bind ports client = .ok (here, client')) :
    here.ip = client.here.ip ∧ client' = { client with channel := .passive here client.peer.ip } := by
  unfold listen DataChannel.listen at h
  cases hport : ports.findSome? fun port => bind ⟨client.here.ip, port⟩ with
  | none =>
    rw [hport] at h
    cases h
  | some port =>
    rw [hport] at h
    cases h
    exact ⟨rfl, rfl⟩

/-- `PORT` and `EPRT` touch the channel only. -/
theorem activate_client (client : Client) (verb : String) (target : Except TransferFault Endpoint) :
    ∃ channel, (activate client verb target).client = { client with channel } := by
  unfold activate
  split
  · exact ⟨_, rfl⟩
  · exact ⟨client.channel, rfl⟩

/-- A command that does not log in changes the client's data channel at most. -/
theorem make_client (settings : ControlSettings) (bind : DataChannel.Binder) (client : Client)
    {command : ControlCommand} (argument : Option String) (huser : command ≠ .user) (hpass : command ≠ .pass)
    (hquit : command ≠ .quit) :
    ∃ channel, (make settings bind client command argument).client = { client with channel } := by
  cases command with
  | user => exact absurd rfl huser
  | pass => exact absurd rfl hpass
  | quit => exact absurd rfl hquit
  | noop | syst | feat | stat => exact ⟨client.channel, rfl⟩
  | abor => exact ⟨.idle, rfl⟩
  | type =>
    refine ⟨client.channel, ?_⟩
    cases argument with
    | none => rfl
    | some argument =>
      show (if _ then _ else if _ then _ else _ : Decision).client = _
      split
      · rfl
      · split <;> rfl
  -- the channel stays where a command has nothing to do with it
  | mode | stru | opts =>
    refine ⟨client.channel, ?_⟩
    cases argument with
    | none => rfl
    | some argument =>
      show (if _ then _ else _ : Decision).client = _
      split <;> rfl
  -- a new passive channel, unless no port is granted or the address cannot be told
  | pasv =>
    show ∃ channel, (pasv bind settings.dataPorts client).client = _
    unfold pasv
    split
    · exact ⟨client.channel, rfl⟩
    · split
      · exact ⟨client.channel, rfl⟩
      · next hlisten =>
        obtain ⟨-, rfl⟩ := listen_eq_ok hlisten
        split <;> exact ⟨_, rfl⟩
  | epsv =>
    show ∃ channel, (epsv bind settings.dataPorts client).client = _
    unfold epsv
    split
    · exact ⟨client.channel, rfl⟩
    · next hlisten =>
      obtain ⟨-, rfl⟩ := listen_eq_ok hlisten
      exact ⟨_, rfl⟩
  | port | eprt => cases argument <;> exact activate_client client _ _

/-- A decision is about the client's login and its data channel, and about nothing else. -/
theorem exists_make_client (settings : ControlSettings) (bind : DataChannel.Binder) (client : Client)
    (command : ControlCommand) (argument : Option String) :
    ∃ user loggedIn channel,
      (make settings bind client command argument).client = { client with user, loggedIn, channel } := by
  -- the three commands that may log in or out, and the frame for all others
  by_cases hlogin : command = .user ∨ command = .pass ∨ command = .quit
  · rcases hlogin with rfl | rfl | rfl
    · show ∃ _ _ _, (user settings.credentials client argument).client = _
      unfold user
      split
      · exact ⟨_, _, _, rfl⟩
      · split <;> exact ⟨_, _, _, rfl⟩
    · show ∃ _ _ _, (pass settings.credentials client argument).client = _
      unfold pass
      split
      · exact ⟨_, _, _, rfl⟩
      split
      · exact ⟨_, _, _, rfl⟩
      split <;> exact ⟨_, _, _, rfl⟩
    · exact ⟨_, _, _, rfl⟩
  · simp only [not_or] at hlogin
    obtain ⟨channel, hclient⟩ := make_client settings bind client argument hlogin.1 hlogin.2.1 hlogin.2.2
    exact ⟨client.user, client.loggedIn, channel, hclient⟩

/-- A decision touches neither what is on its way to the client nor the client's place. -/
theorem make_client_frame (settings : ControlSettings) (bind : DataChannel.Binder) (client : Client)
    (command : ControlCommand) (argument : Option String) :
    (make settings bind client command argument).client.outgoing = client.outgoing ∧
      (make settings bind client command argument).client.cursor = client.cursor := by
  obtain ⟨user, loggedIn, channel, hclient⟩ := exists_make_client settings bind client command argument
  rw [hclient]
  exact ⟨rfl, rfl⟩

end Decision

namespace Exchange

/-- The client becomes what was decided, and then it is answered. -/
theorem control_snd (x : Exchange σ) (settings : ControlSettings) (command : ControlCommand)
    (argument : Option String) :
    (x.control settings command argument).2 =
      ({ x with client := (Decision.make settings x.circumstances.bind x.client command argument).client }.reset.answer
        (Decision.make settings x.circumstances.bind x.client command argument).reply).2 := by
  unfold control
  dsimp only
  split <;> next heq => rw [heq]

/-- A control command leaves behind what it has decided, since the reply to it changes nothing of the login. -/
theorem login_control (x : Exchange σ) (settings : ControlSettings) (command : ControlCommand)
    (argument : Option String) :
    (x.control settings command argument).2.client.login =
        (Decision.make settings x.circumstances.bind x.client command argument).client.login ∧
      (x.control settings command argument).2.client.channel =
        (Decision.make settings x.circumstances.bind x.client command argument).client.channel := by
  rw [control_snd, answer_snd]
  exact ⟨rfl, rfl⟩

end Exchange

/-! ## What a request does to the login

A login is vouched for by the requests that were executed, so what a request does to it is put in terms of the request
alone. -/

/-- Whether a request leaves the name that was given before it in force: it neither gives another nor quits. -/
def Request.KeepsName (r : Request) : Prop :=
  r.verb ≠ "QUIT" ∧ (r.verb = "USER" → r.argument = none)

/-- `PASS` is no `USER`, so it keeps the name. -/
theorem Request.keepsName_of_pass {r : Request} (hverb : r.verb = "PASS") : r.KeepsName := by
  rw [Request.KeepsName, hverb]
  exact ⟨by decide, fun h => absurd h (by decide)⟩

/-- What the execution of a request may make of the login of the client that sent it. -/
inductive LoginStep (credentials : Credentials) (r : Request) (before after : Client) : Prop where
  | kept (hrequest : r.KeepsName) (hlogin : after.login = before.login)
  | named (name : String) (hrequest : r = ⟨"USER", some name⟩) (hcheck : credentials.checkUser name = .ok ())
      (hlogin : after.login = (some name, false)) (hchannel : after.channel = .idle)
  | admitted (name : String) (hverb : r.verb = "PASS") (hname : before.user = some name)
      (hcheck : credentials.checkPassword name (r.argument.getD "") = .ok ()) (hlogin : after.login = (some name, true))
  | forgotten (hlogin : after.login = (none, false)) (hchannel : after.channel = .idle)

/-- Of the state before a step only the login counts. -/
theorem LoginStep.of_before {credentials : Credentials} {r : Request} {before before' after : Client}
    (h : LoginStep credentials r before after) (hbefore : before'.login = before.login) :
    LoginStep credentials r before' after := by
  cases h with
  | kept hrequest hlogin => exact .kept hrequest (hlogin.trans hbefore.symm)
  | named name hrequest hcheck hlogin hchannel => exact .named name hrequest hcheck hlogin hchannel
  | admitted name hverb hname hcheck hlogin =>
    exact .admitted name hverb ((congrArg Prod.fst hbefore).trans hname) hcheck hlogin
  | forgotten hlogin hchannel => exact .forgotten hlogin hchannel

/-- Of the state after it, the login and the channel. -/
theorem LoginStep.of_after {credentials : Credentials} {r : Request} {before after after' : Client}
    (h : LoginStep credentials r before after) (hafter : after'.login = after.login)
    (hchannel' : after'.channel = after.channel) : LoginStep credentials r before after' := by
  cases h with
  | kept hrequest hlogin => exact .kept hrequest (hafter.trans hlogin)
  | named name hrequest hcheck hlogin hchannel =>
    exact .named name hrequest hcheck (hafter.trans hlogin) (hchannel'.trans hchannel)
  | admitted name hverb hname hcheck hlogin => exact .admitted name hverb hname hcheck (hafter.trans hlogin)
  | forgotten hlogin hchannel => exact .forgotten (hafter.trans hlogin) (hchannel'.trans hchannel)

namespace Decision

variable (settings : ControlSettings) (bind : DataChannel.Binder) (client : Client) (r : Request)

/-- `USER` forgets the earlier login in any case, unless it names nobody. -/
theorem loginStep_user (hverb : r.verb = "USER") :
    LoginStep settings.credentials r client (user settings.credentials client r.argument).client := by
  obtain ⟨verb, argument⟩ := r
  obtain rfl : verb = "USER" := hverb
  cases argument with
  | none => exact .kept ⟨by decide, fun _ => rfl⟩ rfl
  | some name =>
    unfold user
    dsimp only
    cases hcheck : settings.credentials.checkUser name with
    | ok => exact .named name rfl hcheck rfl rfl
    | error fault => exact .forgotten rfl rfl

/-- `PASS` admits the client that has given its name, or makes it begin again. -/
theorem loginStep_pass (hverb : r.verb = "PASS") :
    LoginStep settings.credentials r client (pass settings.credentials client r.argument).client := by
  have hkeeps : r.KeepsName := Request.keepsName_of_pass hverb
  unfold pass
  split
  · exact .kept hkeeps rfl
  · cases huser : client.user with
    | none => exact .kept hkeeps rfl
    | some name =>
      dsimp only
      cases hcheck : settings.credentials.checkPassword name (r.argument.getD "") with
      | ok => exact .admitted name hverb huser hcheck (by rw [← huser]; rfl)
      | error fault => exact .forgotten rfl rfl

/-- What a command of the control connection makes of the login, if its verb is the one of the request. -/
theorem loginStep_make {command : ControlCommand} (huser : command = .user ↔ r.verb = "USER")
    (hpass : command = .pass ↔ r.verb = "PASS") (hquit : command = .quit ↔ r.verb = "QUIT") :
    LoginStep settings.credentials r client (make settings bind client command r.argument).client := by
  by_cases hcommand : command = .user ∨ command = .pass ∨ command = .quit
  · rcases hcommand with rfl | rfl | rfl
    · exact loginStep_user settings client r (huser.1 rfl)
    · exact loginStep_pass settings client r (hpass.1 rfl)
    · exact .forgotten rfl rfl
  · obtain ⟨hnotUser, hnotPass, hnotQuit⟩ : command ≠ .user ∧ command ≠ .pass ∧ command ≠ .quit := by
      simpa only [not_or] using hcommand
    obtain ⟨channel, hclient⟩ := make_client settings bind client r.argument hnotUser hnotPass hnotQuit
    refine .kept ⟨fun h => hnotQuit (hquit.2 h), fun h => absurd (huser.2 h) hnotUser⟩ ?_
    rw [hclient]
    rfl

end Decision

end FtpIntake

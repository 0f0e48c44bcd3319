import FtpIntake.Proofs.Connection.Conversation
import FtpIntake.Proofs.Connection.Ways

/-!
# What a stranger is told

A client that is not logged in can be sure of one thing: what it reads depends on what it has sent, and on nothing else.
Neither the tree nor the slot nor the pipeline has a part in it, nor does the client's own address.

* **`Client.Alike`** says that two clients are at the same point, as far as a stranger can tell: they have come as far
  with their login, and the same bytes are on their way to them.
* **`Exchange.alike_take`** takes both through one read. They get the same verdict and are alike again, whatever the two
  exchanges meet.
* **`Conversation.alike_take`** is the same for a turn.

The bytes that a client is sent depend on how its connection takes them, too, and so the two clients need connections
that respond alike. That is the only thing that the two exchanges have to have in common, besides the service.
-/

namespace FtpIntake

/-! ## Clients that cannot be told apart

Two clients may differ in the command that is remembered and in the data channel. A stranger has no channel to use,
and the command is forgotten before it is answered. -/

/-- Two clients that have come as far with their login and have the same bytes on their way to them. -/
structure Client.Alike (c d : Client) : Prop where
  login : d.login = c.login
  outgoing : d.outgoing = c.outgoing

namespace Client

variable {c d : Client}

theorem Alike.user (h : Alike c d) : d.user = c.user :=
  congrArg Prod.fst h.login

theorem Alike.loggedIn (h : Alike c d) : d.loggedIn = c.loggedIn :=
  congrArg Prod.snd h.login

/-- Both are made to log in anew. -/
theorem Alike.logout (h : Alike c d) : Alike c.logout d.logout :=
  ⟨rfl, h.outgoing⟩

/-- How a flush ends depends on what is sent and on how the connection takes it. -/
theorem Alike.flushAll (h : Alike c d) : d.flushAll.1 = c.flushAll.1 ∧ Alike c.flushAll.2 d.flushAll.2 := by
  have hsent : d.sentOff = c.sentOff := by
    rw [sentOff, sentOff, h.outgoing]
  constructor
  · unfold Client.flushAll Client.flush
    rw [h.outgoing]
    dsimp only
    cases (c.outgoing.flush none).1 <;> rfl
  · rw [flushAll_snd, flushAll_snd]
    exact ⟨h.login, hsent⟩

end Client

/-- Two results that agree in everything that a stranger can tell. -/
structure Exchange.Agree {σ τ α : Type} (a : α × Exchange σ) (b : α × Exchange τ) : Prop where
  result : b.1 = a.1
  client : a.2.client.Alike b.2.client

namespace Exchange

variable {σ τ : Type} {x : Exchange σ} {y : Exchange τ}

/-- What is made of two answers that agree agrees. -/
theorem Agree.map {α β : Type} {a : α × Exchange σ} {b : α × Exchange τ} (h : Agree a b) (f : α → β) :
    Agree (f a.1, a.2) (f b.1, b.2) :=
  ⟨congrArg f h.result, h.client⟩

/-! ## Replies

The same reply to two clients that are alike takes the same way and leaves them alike. -/

/-- A reply that is sent to both takes the same way to both. -/
theorem agree_answer (h : x.client.Alike y.client) (r : Reply) : Agree (x.answer r) (y.answer r) := by
  have hqueued : (x.queue r).client.Alike (y.queue r).client :=
    ⟨h.login, congrArg (Outgoing.push · (Client.wireBytes r)) h.outgoing⟩
  obtain ⟨hfst, hsnd⟩ := hqueued.flushAll
  exact ⟨hfst, hsnd⟩

/-- The command that is forgotten at its end is nothing that a stranger sees. -/
theorem alike_reset (h : x.client.Alike y.client) : x.reset.client.Alike y.reset.client :=
  ⟨h.login, h.outgoing⟩

theorem agree_say (h : x.client.Alike y.client) (r : Reply) : Agree (x.say r) (y.say r) :=
  (agree_answer h r).map Verdict.ofSent

end Exchange

/-! ## Commands

A request of a stranger is refused, unless it is one of the commands that are allowed before the login. Of these each
decides by the login and the argument, and by nothing that the two exchanges do not share. -/

namespace Decision

/-- Two decisions that agree in everything that a stranger can tell. -/
structure Agree (a b : Decision) : Prop where
  reply : b.reply = a.reply
  status : b.status = a.status
  client : a.client.Alike b.client

variable {c d : Client}

/-- `USER` looks at the credentials and at the argument. -/
theorem agree_user (credentials : Credentials) (h : c.Alike d) (argument : Option String) :
    Agree (user credentials c argument) (user credentials d argument) := by
  unfold user
  cases argument with
  | none => exact ⟨rfl, rfl, h⟩
  | some name =>
    dsimp only
    cases credentials.checkUser name with
    | ok => exact ⟨rfl, rfl, rfl, h.outgoing⟩
    | error fault => exact ⟨rfl, rfl, h.logout⟩

/-- `PASS` looks at the name that was given besides. -/
theorem agree_pass (credentials : Credentials) (h : c.Alike d) (argument : Option String) :
    Agree (pass credentials c argument) (pass credentials d argument) := by
  unfold pass
  rw [h.loggedIn, h.user]
  by_cases hin : c.loggedIn = true
  · rw [if_pos hin, if_pos hin]
    exact ⟨rfl, rfl, h⟩
  rw [if_neg hin, if_neg hin]
  cases hname : c.user with
  | none => exact ⟨rfl, rfl, h⟩
  | some name =>
    dsimp only
    -- an accepted password logs both in, any other makes both begin anew
    cases credentials.checkPassword name (argument.getD "") with
    | ok => exact ⟨rfl, rfl, rfl, h.outgoing⟩
    | error fault => exact ⟨rfl, rfl, h.logout⟩

/-- **Before the login the control connection decides by the login alone.** -/
theorem agree_make (settings : ControlSettings) (bind bind' : DataChannel.Binder) (h : c.Alike d)
    {command : ControlCommand} (argument : Option String)
    (hallowed : (Command.control command).allowedBeforeLogin = true) :
    Agree (make settings bind c command argument) (make settings bind' d command argument) := by
  cases command with
  | user => exact agree_user settings.credentials h argument
  | pass => exact agree_pass settings.credentials h argument
  | quit => exact ⟨rfl, rfl, h.logout⟩
  | noop | syst | feat => exact ⟨rfl, rfl, h⟩
  | type | mode | stru | opts | abor | stat | pasv | epsv | port | eprt => exact Bool.noConfusion hallowed

end Decision

namespace Exchange

variable {σ τ : Type} {x : Exchange σ} {y : Exchange τ}

/-- What a command of the control connection comes to, once its reply has been sent or has failed. -/
def statusAfter (status : CommandStatus) : Sent → Except IoKind CommandStatus
  | .ok () => .ok status
  | .error kind => .error kind

/-- A control command is its decision, carried out. -/
theorem control_eq (x : Exchange σ) (settings : ControlSettings) (command : ControlCommand) (argument : Option String) :
    let decision := Decision.make settings x.circumstances.bind x.client command argument
    let sent := ({ x with client := decision.client } : Exchange σ).reset.answer decision.reply
    x.control settings command argument = (statusAfter decision.status sent.1, sent.2) := by
  unfold control
  dsimp only
  split <;> next heq => rw [heq]; rfl

/-- **A command that is allowed before the login decides the same for both.** -/
theorem agree_control (settings : ControlSettings) (h : x.client.Alike y.client) {command : ControlCommand}
    (argument : Option String) (hallowed : (Command.control command).allowedBeforeLogin = true) :
    Agree (x.control settings command argument) (y.control settings command argument) := by
  obtain ⟨hreply, hstatus, hclient⟩ :=
    Decision.agree_make settings x.circumstances.bind y.circumstances.bind h argument hallowed
  rw [control_eq, control_eq, hreply, hstatus]
  exact (agree_answer (alike_reset hclient) _).map (statusAfter _)

variable [Pipeline σ] [Pipeline τ]

/-- **A request of a stranger is answered the same way everywhere.** If it does not have to wait for the login, it is
one of the few that look at nothing but the client. -/
theorem agree_dispatch (service : Service) (h : x.client.Alike y.client) (hout : x.client.loggedIn = false)
    (r : Request) : Agree (x.dispatch service r) (y.dispatch service r) := by
  have hout' : y.client.loggedIn = false := h.loggedIn.trans hout
  unfold dispatch
  cases Command.ofVerb? r.verb with
  | none => exact agree_say (alike_reset h) _
  | some command =>
    dsimp only
    rw [hout, hout']
    -- everything else is refused to both, in the same words
    cases hallowed : command.allowedBeforeLogin with
    | false => exact agree_say (alike_reset h) Reply.loginFirst
    | true =>
      rw [Bool.not_true, Bool.and_false, if_neg Bool.false_ne_true]
      cases command with
      | control command => exact (agree_control service.control h r.argument hallowed).map Verdict.ofStatus
      | help => exact (agree_answer (alike_reset h) _).map Verdict.ofSent
      | _ => exact Bool.noConfusion hallowed

/-- **Whatever a stranger sends is answered the same way everywhere.** -/
theorem agree_take (service : Service) (input : Input) (h : x.client.Alike y.client)
    (hout : x.client.loggedIn = false) : Agree (x.take service input) (y.take service input) := by
  cases input with
  | finished => exact ⟨rfl, h⟩
  | failed kind => exact ⟨rfl, h⟩
  | line bytes =>
    unfold take
    dsimp only
    cases String.fromUTF8? ⟨bytes.toArray⟩ with
    | none => exact ⟨rfl, h⟩
    | some line =>
      dsimp only
      unfold perform
      split
      · exact agree_say h Reply.tooLong
      · dsimp only
        split
        · exact ⟨rfl, h⟩
        · -- that the line is logged, and with whose address, does not show
          have hbegun : (x.begun line).client.Alike (y.begun line).client := ⟨h.login, h.outgoing⟩
          exact agree_dispatch service hbegun hout (Request.ofLine line)

end Exchange

/-! ## Turns

The same for a turn of a conversation, whose exchange may have any tree, slot, signal and pipeline. -/

/-- A turn of a conversation that goes on agrees with what any other exchange makes of the same input. -/
theorem Conversation.alike_take {σ τ : Type} [Pipeline σ] [Pipeline τ] (service : Service) {x : Exchange σ}
    {c : Conversation} (hgoes : c.verdict = .goesOn) (h : x.client.Alike c.client) (hout : x.client.loggedIn = false)
    (turn : Turn τ) :
    (c.take service turn).verdict = (x.take service turn.input).1 ∧
      (x.take service turn.input).2.client.Alike (c.take service turn).client := by
  have hagree : Exchange.Agree (x.take service turn.input) ((c.enter turn).take service turn.input) :=
    Exchange.agree_take service turn.input h hout
  unfold Conversation.take
  rw [hgoes]
  exact ⟨hagree.result, hagree.client⟩

end FtpIntake

import FtpIntake.Connection
import FtpIntake.Proofs.Command
import FtpIntake.Proofs.Exchange.Login

/-!
# One turn of a control connection

A turn is one read of a control connection and what becomes of it. Between two turns other connections may have changed
everything that is shared, so a turn brings its own tree, surroundings and pipeline.

* **`Exchange.loginStep_take`** says what a turn makes of the login: what the request in it does, or nothing if there is
  no request.
* **`Exchange.Untouched`** says that an exchange has changed nothing but the login and what is on its way to the client.
  `untouched_take` holds for every turn of a client that is not logged in, because only a few commands get past the
  gate before the login.

What a turn brings along may contradict what the turn before has left: a directory may be gone, a slot may be filled.
No lemma here may depend on it, and none does.
-/

namespace FtpIntake

/-- What a read leads the connection to execute: a line that is in UTF-8, not too long, and has a verb. -/
def Input.executed? (service : Service) (input : Input) : Option Request :=
  match input with
  | .finished | .failed _ => none
  | .line bytes =>
    match String.fromUTF8? ⟨bytes.toArray⟩ with
    | none => none
    | some text =>
      if service.config.maxCommandLength < text.utf8ByteSize ∨ (Request.ofLine text).verb.isEmpty then none
      else some (Request.ofLine text)

namespace Exchange

variable {σ : Type} [Pipeline σ]

/-! ## The login

The executed request is the only thing that can change the login, and `LoginStep` says what each request does to it. -/

/-- A request that runs neither `USER` nor `QUIT` keeps the name that was given. -/
theorem keepsName_of_ne {line : String}
    (huser : Command.ofVerb? (Request.ofLine line).verb ≠ some (.control .user))
    (hquit : Command.ofVerb? (Request.ofLine line).verb ≠ some (.control .quit)) :
    (Request.ofLine line).KeepsName :=
  ⟨fun h => hquit ((Command.ofVerb?_eq_quit_iff line).2 h),
    fun h => absurd ((Command.ofVerb?_eq_user_iff line).2 h) huser⟩

/-- **What the execution of a line makes of the login.** -/
theorem loginStep_dispatch (x : Exchange σ) (service : Service) (line : String) :
    LoginStep service.credentials (Request.ofLine line) x.client
      (x.dispatch service (Request.ofLine line)).2.client := by
  have huser := Command.ofVerb?_eq_user_iff line
  have hpass := Command.ofVerb?_eq_pass_iff line
  have hquit := Command.ofVerb?_eq_quit_iff line
  unfold dispatch
  cases hverb : Command.ofVerb? (Request.ofLine line).verb with
  | none => exact .kept (keepsName_of_ne (by simp [hverb]) (by simp [hverb])) (login_answer x.reset _)
  | some command =>
    rw [hverb] at huser hpass hquit
    dsimp only
    split
    · next hgate =>
      -- the login commands themselves are always allowed
      have hclosed : command.allowedBeforeLogin = false := by
        rw [Bool.and_eq_true, Bool.not_eq_true', Bool.not_eq_true'] at hgate
        exact hgate.2
      refine .kept (keepsName_of_ne ?_ ?_) (login_answer x.reset _)
      · rw [hverb]
        rintro ⟨⟩
        exact Bool.noConfusion hclosed
      · rw [hverb]
        rintro ⟨⟩
        exact Bool.noConfusion hclosed
    · cases command with
      | control command =>
        obtain ⟨hlogin, hchannel⟩ := x.login_control service.control command (Request.ofLine line).argument
        have hmake : LoginStep service.control.credentials (Request.ofLine line) x.client
            (Decision.make service.control x.circumstances.bind x.client command (Request.ofLine line).argument).client := by
          refine Decision.loginStep_make _ _ _ _ ?_ ?_ ?_
          · rw [← huser, Option.some.injEq, Command.control.injEq]
          · rw [← hpass, Option.some.injEq, Command.control.injEq]
          · rw [← hquit, Option.some.injEq, Command.control.injEq]
        exact hmake.of_after hlogin hchannel
      | _ =>
        refine .kept (keepsName_of_ne (by simp [hverb]) (by simp [hverb])) ?_
        exact login_run x service.store _ _

/-- **What a turn makes of the login**: what its request does, if there is one, and nothing otherwise. -/
theorem loginStep_take (x : Exchange σ) (service : Service) (input : Input) :
    match input.executed? service with
    | none => (x.take service input).2.client.login = x.client.login ∧
        (x.take service input).2.client.channel = x.client.channel
    | some r => LoginStep service.credentials r x.client (x.take service input).2.client := by
  cases input with
  | finished => exact ⟨rfl, rfl⟩
  | failed kind => exact ⟨rfl, rfl⟩
  | line bytes =>
    unfold Input.executed? take
    dsimp only
    cases String.fromUTF8? ⟨bytes.toArray⟩ with
    | none => exact ⟨rfl, rfl⟩
    | some line =>
      dsimp only
      unfold perform
      -- what is executed and what is run are decided by the same two questions: is the line too long, and has it a
      -- verb
      by_cases hlong : service.config.maxCommandLength < line.utf8ByteSize
      · rw [if_pos (Or.inl hlong), if_pos hlong]
        show (x.answer Reply.tooLong).2.client.login = _ ∧ (x.answer Reply.tooLong).2.client.channel = _
        rw [answer_snd]
        exact ⟨rfl, rfl⟩
      · by_cases hempty : (Request.ofLine line).verb.isEmpty
        · rw [if_pos (Or.inr hempty), if_neg hlong]
          dsimp only
          rw [if_pos hempty]
          exact ⟨rfl, rfl⟩
        · rw [if_neg (not_or.2 ⟨hlong, hempty⟩), if_neg hlong]
          dsimp only
          rw [if_neg hempty]
          refine (loginStep_dispatch _ service line).of_before ?_
          rfl

/-! ## Before the login

What a client that is not logged in can bring about: replies, records in the log, and its own login. -/

end Exchange

/-- A client stays in its directory, and gets no data channel if it had none. -/
structure Client.Stays (before after : Client) : Prop where
  cursor : after.cursor = before.cursor
  channel : before.channel = .idle → after.channel = .idle

namespace Decision

/-- `USER` may change the name and gives up the channel. The place in the tree stays. -/
theorem stays_user (credentials : Credentials) (client : Client) (argument : Option String) :
    client.Stays (user credentials client argument).client := by
  unfold user
  cases argument with
  | none => exact ⟨rfl, id⟩
  | some name =>
    dsimp only
    split
    · exact ⟨rfl, fun _ => rfl⟩
    · exact ⟨rfl, fun _ => rfl⟩

/-- `PASS` may change the login and gives up the channel if it fails. -/
theorem stays_pass (credentials : Credentials) (client : Client) (argument : Option String) :
    client.Stays (pass credentials client argument).client := by
  unfold pass
  split
  · exact ⟨rfl, id⟩
  · split
    · exact ⟨rfl, id⟩
    · split
      · exact ⟨rfl, id⟩
      · exact ⟨rfl, fun _ => rfl⟩

/-- The commands of the control connection that are allowed before the login log in, log out, or only answer. -/
theorem stays_make (settings : ControlSettings) (bind : DataChannel.Binder) (client : Client)
    {command : ControlCommand} (argument : Option String)
    (hallowed : (Command.control command).allowedBeforeLogin = true) :
    client.Stays (make settings bind client command argument).client := by
  cases command with
  | user => exact stays_user settings.credentials client argument
  | pass => exact stays_pass settings.credentials client argument
  | quit => exact ⟨rfl, fun _ => rfl⟩
  | noop | syst | feat => exact ⟨rfl, id⟩
  | type | mode | stru | opts | abor | stat | pasv | epsv | port | eprt => exact Bool.noConfusion hallowed

end Decision

/-- Whether an effect concerns the control connection and the log alone. -/
def Effect.isQuiet : Effect → Bool
  | .stateReset | .replyQueued _ | .logged _ => true
  | .channelClosed | .channelOpened | .sent _ | .called _ => false

/-- The second exchange has come from the first without a change to anything but the client's own login. -/
structure Exchange.Untouched {σ : Type} (x x' : Exchange σ) : Prop where
  tree : x'.tree = x.tree
  surroundings : x'.surroundings = x.surroundings
  pipeline : x'.pipeline = x.pipeline
  stays : x.client.Stays x'.client
  effects : ∃ added, x'.effects = added ++ x.effects ∧ ∀ effect ∈ added, effect.isQuiet = true

namespace Exchange

variable {σ : Type} {x x' x'' : Exchange σ}

/-- Nothing has happened. -/
theorem Untouched.refl (x : Exchange σ) : Untouched x x :=
  ⟨rfl, rfl, rfl, ⟨rfl, id⟩, [], rfl, fun _ h => absurd h List.not_mem_nil⟩

/-- What is untouched by each of two steps is so by both. -/
theorem Untouched.trans (h : Untouched x x') (h' : Untouched x' x'') : Untouched x x'' := by
  obtain ⟨added, heq, hquiet⟩ := h.effects
  obtain ⟨added', heq', hquiet'⟩ := h'.effects
  refine ⟨h'.tree.trans h.tree, h'.surroundings.trans h.surroundings, h'.pipeline.trans h.pipeline,
    ⟨h'.stays.cursor.trans h.stays.cursor, fun hidle => h'.stays.channel (h.stays.channel hidle)⟩,
    added' ++ added, ?_, List.forall_mem_append.2 ⟨hquiet', hquiet⟩⟩
  rw [heq', heq, List.append_assoc]

/-- A change of the client that stays where it is, with quiet effects only. -/
theorem untouched_of_client {client : Client} {added : List Effect} (hstays : x.client.Stays client)
    (hquiet : ∀ effect ∈ added, effect.isQuiet = true) :
    Untouched x { x with client, effects := added ++ x.effects } :=
  ⟨rfl, rfl, rfl, hstays, added, rfl, hquiet⟩

theorem untouched_reset (x : Exchange σ) : Untouched x x.reset := by
  show Untouched x { x with client := x.client.reset, effects := [.stateReset] ++ x.effects }
  exact untouched_of_client ⟨rfl, id⟩ (by simp [Effect.isQuiet])

/-- A reply is on its way to the client, which is all. -/
theorem untouched_answer (x : Exchange σ) (r : Reply) : Untouched x (x.answer r).2 := by
  rw [answer_snd]
  show Untouched x { x with client := _, effects := [.replyQueued r] ++ x.effects }
  exact untouched_of_client ⟨rfl, id⟩ (by simp [Effect.isQuiet])

/-- The control commands that are allowed before the login are `USER`, `PASS`, `QUIT`, and those that tell something
fixed. -/
theorem untouched_control (x : Exchange σ) (settings : ControlSettings) {command : ControlCommand}
    (argument : Option String) (hallowed : (Command.control command).allowedBeforeLogin = true) :
    Untouched x (x.control settings command argument).2 := by
  have hstays := Decision.stays_make settings x.circumstances.bind x.client argument hallowed
  rw [control_snd]
  refine Untouched.trans ?_ ((untouched_reset _).trans (untouched_answer _ _))
  exact untouched_of_client hstays fun _ h => absurd h List.not_mem_nil

/-- **A request of a client that is not logged in touches nothing.** It is refused, unless it is one of the few that
are not. -/
theorem untouched_dispatch [Pipeline σ] (service : Service) (r : Request) (hout : x.client.loggedIn = false) :
    Untouched x (x.dispatch service r).2 := by
  unfold dispatch
  cases Command.ofVerb? r.verb with
  | none => exact (untouched_reset x).trans (untouched_answer _ _)
  | some command =>
    dsimp only
    cases hallowed : command.allowedBeforeLogin with
    | false =>
      rw [hout]
      exact (untouched_reset x).trans (untouched_answer _ _)
    | true =>
      rw [Bool.not_true, Bool.and_false, if_neg Bool.false_ne_true]
      -- behind the gate there is also `HELP`; no other command is allowed in front of it
      cases command with
      | control command => exact untouched_control x service.control r.argument hallowed
      | help => exact (untouched_reset x).trans (untouched_answer _ _)
      | _ => exact Bool.noConfusion hallowed

/-- **A turn of a client that is not logged in touches nothing.** -/
theorem untouched_take [Pipeline σ] (service : Service) (input : Input) (hout : x.client.loggedIn = false) :
    Untouched x (x.take service input).2 := by
  cases input with
  | finished => exact .refl x
  | failed kind => exact .refl x
  | line bytes =>
    unfold take
    dsimp only
    cases String.fromUTF8? ⟨bytes.toArray⟩ with
    | none => exact .refl x
    | some line =>
      dsimp only
      unfold perform
      split
      · exact untouched_answer x Reply.tooLong
      · dsimp only
        split
        · exact .refl x
        · -- the line is recorded and its verb remembered, which no one else can see
          have hbegun : Untouched x
              { x with
                client := x.client.begin (Request.ofLine line).verb
                effects := [.logged (LogRecord.executed (toString x.client.peer) line)] ++ x.effects } :=
            untouched_of_client ⟨rfl, id⟩ (by simp [Effect.isQuiet])
          exact hbegun.trans (untouched_dispatch service (Request.ofLine line) hout)

end Exchange

end FtpIntake

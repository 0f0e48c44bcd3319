import FtpIntake.Proofs.Connection.Ways
import FtpIntake.Proofs.Exchange.Channel

/-!
# What a line may change

Every part of the state has a few verbs that may change it, and nothing else does, on no path through any other command
and not on the failure paths of the verbs themselves either.

The parts are the directory of the client, the tree, the login, the channel and the pipeline. A part is owned by a
command, or not, whatever the command is given; only the argument of `USER` decides something more, since `USER` without
a name forgets nothing. That a command keeps what it does not own is shown from the ways in which it can go, which are
listed for the commands that are not control commands and are the branches of `Decision.make` for those that are.

* **`Part.verbs`** lists the verbs of each part, and `Part.owns` says the same of commands.
* **`Exchange.Keeps`** says that a part has stayed as it was.
* **`keeps_control`** and **`keeps_run`** go through the commands: each of them keeps what it does not own.
* **`Exchange.keeps_take`** is the frame law for whatever was read.

The slot and the signal go with the pipeline, because the only command that lets time pass is the one that calls it.
The name that a client has given and its login are one part as well, since `USER` changes both.
-/

namespace FtpIntake

/-! ## Who may change what

Each part of the state has its verbs, and a command that is run by another verb has to leave it alone. The table of
owners is the whole statement; the rest of the file checks the program against it. -/

/-- The parts of the state that a line works on. The slot and the shutdown signal count as part of the pipeline. -/
inductive Part where
  | tree
  | cursor
  | login
  | channel
  | pipeline

namespace Part

/-- The verbs that may change a part. -/
def verbs : Part → List String
  | tree => ["MKD", "XMKD", "RMD", "XRMD"]
  | cursor => ["CWD", "XCWD", "CDUP", "XCUP"]
  | login => ["USER", "PASS", "QUIT"]
  | channel =>
    ["PASV", "EPSV", "PORT", "EPRT", "ABOR", "STOR", "LIST", "NLST", "MLSD", "USER", "PASS", "QUIT"]
  | pipeline => ["STOR"]

/-- Whether a command may change a part. -/
def owns (part : Part) (command : Command) : Bool :=
  part.verbs.any fun verb => Command.table.lookup verb == some command

/-- A command that owns a part is run by one of the verbs of that part. The table is gone through row by row. -/
theorem mem_verbs_of_owns (part : Part) : ∀ row ∈ Command.table, part.owns row.2 = true → row.1 ∈ part.verbs := by
  cases part <;> decide

/-- A command that is refused owns nothing. -/
theorem isReject_of_owns (part : Part) : ∀ row ∈ Command.table, part.owns row.2 = true → row.2.isReject = false := by
  cases part <;> decide

end Part

/-- The request may change the part. `USER` changes nothing unless it names somebody. -/
def Request.Owns (r : Request) (part : Part) : Prop :=
  r.verb ∈ part.verbs ∧ (r.verb = "USER" → r.argument ≠ none)

/-- The command may change the part when it is run with this argument. -/
def Command.Owns (command : Command) (argument : Option String) (part : Part) : Prop :=
  part.owns command = true ∧ (command = .control .user → argument ≠ none)

/-- What a command owns its line owns. -/
theorem Command.Owns.request {line : String} {command : Command} {part : Part}
    (h : command.Owns (Request.ofLine line).argument part)
    (hverb : Command.ofVerb? (Request.ofLine line).verb = some command) : (Request.ofLine line).Owns part := by
  refine ⟨part.mem_verbs_of_owns _ (mem_table_of_ofVerb? hverb) h.1, fun huser => h.2 ?_⟩
  rw [(ofVerb?_eq_user_iff line).2 huser] at hverb
  exact (Option.some.inj hverb).symm

namespace Exchange

variable {σ : Type} {x x' x'' : Exchange σ}

/-- The part is the same in both exchanges. Of the pipeline this says that it has not been called in between, too. -/
def Keeps (x x' : Exchange σ) : Part → Prop
  | .tree => x'.tree = x.tree
  | .cursor => x'.client.cursor = x.client.cursor
  | .login => x'.client.login = x.client.login
  | .channel => x'.client.channel = x.client.channel
  | .pipeline => x'.pipeline = x.pipeline ∧ x'.surroundings = x.surroundings ∧
      ∃ added, x'.history = x.history ++ added ∧ ∀ record, .called record ∉ added

/-! ## What keeps everything

The building blocks that every command uses. They change the queue of outgoing bytes and the record, and these are no
parts. -/

/-- Where nothing happens every part stays. -/
theorem Keeps.refl (x : Exchange σ) (part : Part) : Keeps x x part := by
  cases part with
  | pipeline => exact ⟨rfl, rfl, [], (List.append_nil _).symm, fun _ => List.not_mem_nil⟩
  | _ => exact rfl

/-- A part that stays through one step and through the next stays through both. -/
theorem Keeps.trans {part : Part} (h : Keeps x x' part) (h' : Keeps x' x'' part) : Keeps x x'' part := by
  cases part with
  | pipeline =>
    obtain ⟨hpipeline, hsurroundings, added, hhistory, hnone⟩ := h
    obtain ⟨hpipeline', hsurroundings', added', hhistory', hnone'⟩ := h'
    refine ⟨hpipeline'.trans hpipeline, hsurroundings'.trans hsurroundings, added ++ added', ?_, fun record hmem => ?_⟩
    · rw [hhistory', hhistory, List.append_assoc]
    · exact (List.mem_append.1 hmem).elim (hnone record) (hnone' record)
  | _ => exact Eq.trans h' h

/-- An effect that is no call of the pipeline, with a change of the client that is none of the parts. -/
theorem keeps_note (effect : Effect) (client : Client) (hcall : ∀ record, effect ≠ .called record)
    (hcursor : client.cursor = x.client.cursor) (hlogin : client.login = x.client.login)
    (hchannel : client.channel = x.client.channel) (part : Part) :
    Keeps x { x with client, effects := effect :: x.effects } part := by
  cases part with
  | tree => exact rfl
  | cursor => exact hcursor
  | login => exact hlogin
  | channel => exact hchannel
  | pipeline =>
    refine ⟨rfl, rfl, [effect], List.reverse_cons, fun record hmem => ?_⟩
    exact hcall record (List.mem_singleton.1 hmem).symm

/-- The command that is forgotten at its end is no part. -/
theorem keeps_reset (x : Exchange σ) (part : Part) : Keeps x x.reset part :=
  keeps_note .stateReset x.client.reset nofun rfl rfl rfl part

/-- Sending a reply changes none of the parts, whether or not it can be sent. -/
theorem keeps_answer (x : Exchange σ) (r : Reply) (part : Part) : Keeps x (x.answer r).2 part := by
  rw [answer_snd]
  exact keeps_note (.replyQueued r) _ nofun rfl rfl rfl part

/-- Nor does the record of the line, or its verb being remembered. -/
theorem keeps_begun (x : Exchange σ) (line : String) (part : Part) : Keeps x (x.begun line) part :=
  keeps_note (.logged (LogRecord.executed (toString x.client.peer) line)) (x.client.begin (Request.ofLine line).verb)
    nofun rfl rfl rfl part

/-- Clearing the client's state and answering is all that is done about a request that is refused. -/
theorem keeps_reset_answer (x : Exchange σ) (r : Reply) (part : Part) : Keeps x (x.reset.answer r).2 part :=
  (keeps_reset x part).trans (keeps_answer x.reset r part)

/-! ## Commands of the control connection

A decision may change the client in any way, so each command is looked at. -/

/-- A command of the control connection that does not even own the channel only answers. -/
theorem Decision.make_client_eq (settings : ControlSettings) (bind : DataChannel.Binder) (client : Client)
    {command : ControlCommand} (argument : Option String) (hother : Part.channel.owns (.control command) = false) :
    (Decision.make settings bind client command argument).client = client := by
  -- the commands that own the channel are left out; of the others no branch touches the client
  cases command with
  | noop | syst | feat | stat => rfl
  | type =>
    cases argument with
    | none => rfl
    | some argument =>
      show (if _ then _ else if _ then _ else _ : Decision).client = _
      split
      · rfl
      · split <;> rfl
  | mode | stru | opts =>
    cases argument with
    | none => rfl
    | some argument =>
      show (if _ then _ else _ : Decision).client = _
      split <;> rfl
  | user | pass | quit | abor | pasv | epsv | port | eprt => exact absurd hother (by decide)

/-- What is decided about a client leaves alone what the command does not own. -/
theorem keeps_decision (x : Exchange σ) (settings : ControlSettings) (command : ControlCommand)
    (argument : Option String) {part : Part} (hother : ¬(Command.control command).Owns argument part) :
    let decision := Decision.make settings x.circumstances.bind x.client command argument
    Keeps x { x with client := decision.client } part := by
  intro decision
  by_cases hnobody : command = .user ∧ argument = none
  · -- a `USER` that names nobody owns nothing and does nothing
    obtain ⟨rfl, rfl⟩ := hnobody
    exact .refl x part
  have howns : part.owns (.control command) = false := by
    rw [Bool.eq_false_iff]
    refine fun howns => hother ⟨howns, fun huser hnone => hnobody ⟨Command.control.inj huser, hnone⟩⟩
  cases part with
  | tree => exact rfl
  | pipeline => exact ⟨rfl, rfl, [], (List.append_nil _).symm, fun _ => List.not_mem_nil⟩
  | cursor => exact (Decision.make_client_frame settings x.circumstances.bind x.client command argument).2
  | channel =>
    -- without the channel a command owns nothing of the client
    exact congrArg Client.channel (Decision.make_client_eq settings _ x.client argument howns)
  | login =>
    obtain ⟨huser, hpass, hquit⟩ : command ≠ .user ∧ command ≠ .pass ∧ command ≠ .quit := by
      refine ⟨?_, ?_, ?_⟩ <;>
      · rintro rfl
        exact absurd howns (by decide)
    obtain ⟨channel, hclient⟩ :=
      Decision.make_client settings x.circumstances.bind x.client argument huser hpass hquit
    show (Decision.make settings x.circumstances.bind x.client command argument).client.login = x.client.login
    rw [hclient]
    rfl

/-- A control command keeps what it does not own: the name and the login stay with those that do not log in, the
channel with those that do not negotiate. -/
theorem keeps_control (x : Exchange σ) (settings : ControlSettings) (command : ControlCommand)
    (argument : Option String) {part : Part} (hother : ¬(Command.control command).Owns argument part) :
    Keeps x (x.control settings command argument).2 part := by
  rw [control_snd]
  exact (keeps_decision x settings command argument hother).trans (keeps_reset_answer _ _ part)

/-! ## The other commands

These change one part at a time, by an operation that is named after it. -/

/-- A change of the tree is one of the tree alone. -/
theorem keeps_with_tree (x : Exchange σ) (tree : Tree) {part : Part} (hother : part ≠ .tree) :
    Keeps x { x with tree } part := by
  cases part with
  | tree => exact absurd rfl hother
  | pipeline => exact ⟨rfl, rfl, [], (List.append_nil _).symm, fun _ => List.not_mem_nil⟩
  | cursor | login | channel => exact rfl

/-- A change of the client's place is one of this place alone. -/
theorem keeps_place (x : Exchange σ) (current : Path) {part : Part} (hother : part ≠ .cursor) :
    Keeps x (x.place current) part := by
  cases part with
  | cursor => exact absurd rfl hother
  | pipeline => exact ⟨rfl, rfl, [], (List.append_nil _).symm, fun _ => List.not_mem_nil⟩
  | tree | login | channel => exact rfl

/-- A command without a transfer has left alone what it does not own when it sends its reply. -/
theorem Answered.keeps {y : Exchange σ} {command : Command} {argument : Option String} {reply : Reply}
    (h : Answered x command argument y reply) {part : Part} (hother : part.owns command = false) : Keeps x y part := by
  have hreset := keeps_reset x part
  cases h with
  | made | removed =>
    refine hreset.trans (keeps_with_tree x.reset _ ?_)
    rintro rfl
    exact absurd hother (by decide)
  | entered | climbed =>
    refine hreset.trans (keeps_place x.reset _ ?_)
    rintro rfl
    exact absurd hother (by decide)
  | _ => exact hreset

/-- A listing calls nothing of the pipeline. -/
theorem Listed.called_notMem {form : ListingForm} {argument : Option String} {result : Sent} {added : List Effect}
    (h : Listed x form argument result added) (record : CallRecord) : .called record ∉ added := by
  cases h <;> simp

/-- A listing gives the channel up and keeps everything else. -/
theorem keeps_list (x : Exchange σ) (form : ListingForm) (argument : Option String) {part : Part}
    (hother : part.owns (.list form) = false) : Keeps x (x.list form argument).2 part := by
  obtain ⟨added, hlisted, hsends, hsteady⟩ := sends_list x form argument
  cases part with
  | tree => exact hsteady.tree
  | cursor => exact hsteady.cursor
  | login => exact congrArg Prod.snd (identity_list x form argument)
  | channel => exact absurd hother (by cases form <;> decide)
  | pipeline =>
    -- no step of a listing touches it, and a call would be among what is added to the record
    have hanswer (x : Exchange σ) (r : Reply) :
        ((x.answer r).2.pipeline, (x.answer r).2.surroundings) = (x.pipeline, x.surroundings) := by
      rw [answer_snd]
    have hkept := sendListing_keeps (fun x => (x.pipeline, x.surroundings)) hanswer (fun _ _ => rfl) x.reset form
      (x.listingDirectory argument)
    refine ⟨congrArg Prod.fst hkept, congrArg Prod.snd hkept, _, hsends.history, fun record => ?_⟩
    simpa using hlisted.called_notMem record

variable [Pipeline σ]

/-- **A command leaves alone what it does not own**, on every path through it. -/
theorem keeps_run (x : Exchange σ) (settings : StoreSettings) {command : Command} (argument : Option String)
    (hcontrol : command.isControl = false) {part : Part} (hother : part.owns command = false) :
    Keeps x (x.run settings command argument).2 part := by
  -- a command without a transfer leaves a state and sends one reply to it
  cases htransfers : command.transfers with
  | false =>
    obtain ⟨y, reply, hanswered, hrun⟩ := exists_answered x settings argument hcontrol htransfers
    rw [hrun]
    exact (hanswered.keeps hother).trans (keeps_answer y reply part)
  | true =>
    cases command with
    | list form => exact keeps_list x form argument hother
    | store =>
      obtain ⟨-, -, -, -, -, hsteady⟩ := sends_store x settings argument
      -- an upload owns the channel and the pipeline, and what it does to the rest was said for all of its paths
      cases part with
      | tree => exact hsteady.tree
      | cursor => exact hsteady.cursor
      | login => exact congrArg Prod.snd (identity_store x settings argument)
      | channel => exact absurd hother (by decide)
      | pipeline => exact absurd hother (by decide)
    | _ => exact Bool.noConfusion htransfers

/-- The verb is forgotten again, however the command has ended. -/
theorem command_run (x : Exchange σ) (settings : StoreSettings) {command : Command} (argument : Option String)
    (hcontrol : command.isControl = false) : (x.run settings command argument).2.client.command = none := by
  cases htransfers : command.transfers with
  | false =>
    obtain ⟨y, reply, hanswered, hrun⟩ := exists_answered x settings argument hcontrol htransfers
    rw [hrun, answer_snd]
    cases hanswered <;> rfl
  | true =>
    cases command with
    | list form =>
      -- a listing is through with its command before it begins
      have hanswer : ∀ x : Exchange σ, ∀ r, (x.answer r).2.client.command = x.client.command := fun x r => by
        rw [answer_snd]
      exact sendListing_keeps (fun x => x.client.command) hanswer (fun _ _ => rfl) x.reset form
        (x.listingDirectory argument)
    | store => rfl
    | _ => exact Bool.noConfusion htransfers

/-! ## Lines

A line that is refused, too long, or without a verb owns nothing and keeps everything. -/

/-- **What a request changes it owns.** Its verb is then a known one that is served, and the request has got past the
gate before the login. -/
theorem keeps_dispatch (x : Exchange σ) (service : Service) (line : String) (part : Part) :
    Keeps x (x.dispatch service (Request.ofLine line)).2 part ∨
      ((Request.ofLine line).Owns part ∧
        ∃ command, Command.ofVerb? (Request.ofLine line).verb = some command ∧ command.isReject = false ∧
          (x.client.loggedIn = true ∨ command.allowedBeforeLogin = true)) := by
  have hway := x.dispatched service (Request.ofLine line)
  generalize x.dispatch service (Request.ofLine line) = result at hway
  cases hway with
  | unknown hverb => exact .inl (keeps_reset_answer x _ part)
  | refused hverb hout hclosed => exact .inl (keeps_reset_answer x _ part)
  | @controlled command hverb hopen =>
    by_cases hother : (Command.control command).Owns (Request.ofLine line).argument part
    · exact .inr ⟨hother.request hverb, _, hverb, rfl, hopen⟩
    · exact .inl (keeps_control x service.control command _ hother)
  | @ran command hverb hcontrol hopen =>
    cases howns : part.owns command with
    | false => exact .inl (keeps_run x service.store _ hcontrol howns)
    | true =>
      -- it is `USER` alone whose ownership depends on the argument, and that is a control command
      have hrow := Command.mem_table_of_ofVerb? hverb
      have hrequest : command.Owns (Request.ofLine line).argument part := by
        refine ⟨howns, ?_⟩
        rintro rfl
        exact Bool.noConfusion hcontrol
      exact .inr ⟨hrequest.request hverb, _, hverb, part.isReject_of_owns _ hrow howns, hopen⟩

/-- After a request no command is being run. -/
theorem command_dispatch (x : Exchange σ) (service : Service) (r : Request) :
    (x.dispatch service r).2.client.command = none := by
  have hanswered (y : Exchange σ) (reply : Reply) : (y.reset.answer reply).2.client.command = none := by
    rw [answer_snd]
    rfl
  have hway := x.dispatched service r
  generalize x.dispatch service r = result at hway
  cases hway with
  | unknown | refused => exact hanswered x _
  | @controlled command =>
    show (x.control service.control command r.argument).2.client.command = none
    rw [control_snd]
    exact hanswered _ _
  | ran hverb hcontrol => exact command_run x service.store _ hcontrol

/--
**The frame law.** Whatever was read, and in whatever state of the client, the tree, the slot, the pipeline and the
network, a part of the state stays as it was unless its own verbs are at work. The tree is changed by `MKD` and `RMD`
alone, the client's directory by `CWD` and `CDUP`, the login by `USER`, `PASS` and `QUIT`, the data channel by what
negotiates one, what uses one and what logs in or out, and only `STOR` has to do with the pipeline. `USER` must name
somebody.

What was read is then a line that is not too long and not blank, its verb is known and not one that is always refused,
and the client was logged in or did not have to be. After a line that is executed no verb is remembered.
-/
theorem keeps_take (x : Exchange σ) (service : Service) (input : Input) :
    (∀ part, Keeps x (x.take service input).2 part ∨
      ∃ r, input.executed? service = some r ∧ r.verb ∈ part.verbs ∧ (r.verb = "USER" → r.argument ≠ none) ∧
        ∃ command, Command.ofVerb? r.verb = some command ∧ command.isReject = false ∧
          (x.client.loggedIn = true ∨ command.allowedBeforeLogin = true)) ∧
    ((input.executed? service).isSome = true → (x.take service input).2.client.command = none) := by
  rcases x.take_cases service input with ⟨line, hexecuted, htake⟩ | ⟨hexecuted, hsame | htooLong⟩
  · rw [htake]
    refine ⟨fun part => ?_, fun _ => command_dispatch (x.begun line) service _⟩
    rcases (x.begun line).keeps_dispatch service line part with hkeeps | ⟨howns, hcommand⟩
    · exact .inl ((keeps_begun x line part).trans hkeeps)
    · exact .inr ⟨_, hexecuted, howns.1, howns.2, hcommand⟩
  · rw [hsame, hexecuted]
    exact ⟨fun part => .inl (.refl x part), nofun⟩
  · rw [htooLong, hexecuted]
    exact ⟨fun part => .inl (keeps_answer x Reply.tooLong part), nofun⟩

end Exchange

end FtpIntake

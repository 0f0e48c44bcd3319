import FtpIntake.Proofs.Connection.Frame
import FtpIntake.Proofs.Connection.Line

/-!
# How a line ends a connection

A connection ends with what was read for one of two reasons: the client asked for it, or a reply could not be sent. Each
of them shows, and neither of them needs an obliging connection.

* **`Input.Closes`** is what the client can do to end its connection, and `closes_of_quits` says that there is nothing
  else.
* **`Exchange.Stuck`** says of a command that has failed that some of what it had for the client is still queued.
  `queued_of_breaks` carries this over to lines.
* **`Exchange.Stopping`** says that the shutdown signal is on, and will not be taken back. `Stopping.take` keeps it over
  a line, for which `STOR` alone matters, and `acquire_of_signal` is why no `STOR` waits on after it.

The two reasons are not exclusive: a reply to `QUIT` may be impossible to send. What is shown is that there is no
third one, and that a wait for a factory never keeps a connection from seeing the signal.
-/

namespace FtpIntake

/-! ## The client's ways to end

A client ends its connection by `QUIT`, by closing its side, or by something that cannot be read as a line. -/

/-- What was read ends the connection by itself: the input is at its end, the read has failed or was no text, or the
line is a `QUIT`. -/
def Input.Closes (service : Service) : Input → Prop
  | .finished | .failed _ => True
  | .line bytes => ∀ line ∈ String.fromUTF8? ⟨bytes.toArray⟩, service.QuitsOn line

namespace Decision

/-- No command of the control connection but `QUIT` closes it. -/
theorem eq_quit_of_closes {settings : ControlSettings} {bind : DataChannel.Binder} {client : Client}
    {command : ControlCommand} {argument : Option String}
    (h : (make settings bind client command argument).status = .closeConnection) : command = .quit := by
  cases command with
  | quit => rfl
  | noop | syst | feat | abor | stat => cases h
  -- the others put their argument to a few tests, and none of the ways through these closes the connection
  | user =>
    simp only [make, user] at h
    split at h
    · cases h
    · split at h <;> cases h
  | pass =>
    simp only [make, pass] at h
    split at h
    · cases h
    split at h
    · cases h
    split at h <;> cases h
  | type =>
    simp only [make, type] at h
    split at h
    · cases h
    split at h
    · cases h
    split at h <;> cases h
  | mode | stru =>
    simp only [make, onlyAccept] at h
    split at h
    · cases h
    split at h <;> cases h
  | opts =>
    simp only [make, opts] at h
    split at h
    · cases h
    split at h <;> cases h
  | pasv =>
    simp only [make, pasv] at h
    split at h
    · cases h
    split at h
    · cases h
    split at h <;> cases h
  | epsv =>
    simp only [make, epsv] at h
    split at h <;> cases h
  | port | eprt =>
    simp only [make, activateFrom, activate] at h
    split at h <;> split at h <;> cases h

end Decision

namespace Exchange

variable {σ : Type}

/-- A control command whose reply was sent ends as it has decided. -/
theorem status_of_control {x : Exchange σ} {settings : ControlSettings} {command : ControlCommand}
    {argument : Option String} {status : CommandStatus} (h : (x.control settings command argument).1 = .ok status) :
    status = (Decision.make settings x.circumstances.bind x.client command argument).status := by
  unfold control at h
  dsimp only at h
  split at h
  · cases h
    rfl
  · cases h

/-- Of the control commands only `QUIT` ends the connection. -/
theorem eq_quit_of_quits {x : Exchange σ} {settings : ControlSettings} {command : ControlCommand}
    {argument : Option String} (h : Verdict.ofStatus (x.control settings command argument).1 = .quits) :
    command = .quit := by
  cases hstatus : (x.control settings command argument).1 with
  | error kind =>
    rw [hstatus] at h
    cases h
  | ok status =>
    rw [hstatus] at h
    have hdecided := status_of_control hstatus
    cases status with
    | closeConnection => exact Decision.eq_quit_of_closes hdecided.symm
    | success | failure => cases h

/-- Sending a reply does not end the connection on the client's behalf. -/
theorem ofSent_ne_quits (sent : Sent) : Verdict.ofSent sent ≠ .quits := by
  cases sent <;> exact nofun

/-! ## Replies that cannot be sent

If a command fails, a reply could not be sent as a whole. Its bytes are still queued, which is how it can be told that
this was the reason. -/

/-- If it has failed, some of what it had for the client has not been taken. -/
def Stuck {α : Type} (result : Except IoKind α × Exchange σ) : Prop :=
  ∀ kind, result.1 = .error kind → result.2.client.outgoing.queued ≠ []

/-- What could not be sent is still queued. -/
theorem stuck_answer (x : Exchange σ) (r : Reply) : Stuck (x.answer r) := by
  intro kind hfailed
  rw [answer_snd]
  have hflush : (x.queue r).client.flushAll.1 = .error kind := hfailed
  unfold Client.flushAll at hflush
  split at hflush
  · next found client heq => exact Outgoing.queued_of_flush_failed _ (congrArg Prod.fst heq)
  · cases hflush

/-- What is done at the end leaves the queue as it is. -/
theorem Stuck.followedBy {α : Type} {result : Except IoKind α × Exchange σ} (h : Stuck result) {x : Exchange σ}
    (houtgoing : x.client.outgoing = result.2.client.outgoing) : Stuck (result.1, x) := by
  intro kind hfailed
  show x.client.outgoing.queued ≠ []
  rw [houtgoing]
  exact h kind hfailed

/-- A listing that was announced fails with its final reply. -/
theorem stuck_sendAnnounced (x : Exchange σ) (bytes : Bytes) : Stuck (x.sendAnnounced bytes) := by
  unfold sendAnnounced
  split
  · exact stuck_answer _ _
  · split <;> exact stuck_answer _ _

/-- A listing fails with its mark, or with the only reply to it. -/
theorem stuck_sendListing (x : Exchange σ) (form : ListingForm) (directory : Path) :
    Stuck (x.sendListing form directory) := by
  unfold sendListing
  split
  · exact stuck_answer _ _
  split
  · exact stuck_answer _ _
  have hmark := stuck_answer x ⟨ReplyCode.fileStatusOkay, "Here comes the directory listing."⟩
  split
  · next kind x' heq =>
    rw [heq] at hmark
    exact hmark
  · exact stuck_sendAnnounced _ _

/-- A control command fails with its reply. -/
theorem stuck_control (x : Exchange σ) (settings : ControlSettings) (command : ControlCommand)
    (argument : Option String) : Stuck (x.control settings command argument) := by
  have hanswer := stuck_answer
    ({ x with client := (Decision.make settings x.circumstances.bind x.client command argument).client }.reset)
    (Decision.make settings x.circumstances.bind x.client command argument).reply
  unfold control
  dsimp only
  split
  · exact nofun
  · next kind x' heq =>
    rw [heq] at hanswer
    exact fun found _ => hanswer kind rfl

section Lines

variable [Pipeline σ]

/-- **A command that fails has left something queued.** -/
theorem stuck_run (x : Exchange σ) (settings : StoreSettings) {command : Command} (argument : Option String)
    (hcontrol : command.isControl = false) : Stuck (x.run settings command argument) := by
  cases htransfers : command.transfers with
  | false =>
    obtain ⟨y, reply, -, hrun⟩ := exists_answered x settings argument hcontrol htransfers
    rw [hrun]
    exact stuck_answer y reply
  | true =>
    cases command with
    | list form => exact (stuck_sendListing x.reset form (x.listingDirectory argument)).followedBy rfl
    | store =>
      exact (stuck_answer (x.storeReply settings argument).2 (x.storeReply settings argument).1).followedBy rfl
    | _ => exact Bool.noConfusion htransfers

/-- **A line that ends the connection for a reply has left something queued**, whatever the line is. -/
theorem queued_of_breaks {x : Exchange σ} {service : Service} {input : Input} {kind : IoKind}
    (h : (x.take service input).1 = .breaks kind) : (x.take service input).2.client.outgoing.queued ≠ [] := by
  -- a verdict of this kind comes from a reply that could not be sent
  have hsent {result : Sent × Exchange σ} (hstuck : Stuck result) (hbreaks : Verdict.ofSent result.1 = .breaks kind) :
      result.2.client.outgoing.queued ≠ [] := by
    cases hresult : result.1 with
    | ok =>
      rw [hresult] at hbreaks
      cases hbreaks
    | error found => exact hstuck found hresult
  have hway := x.taken service input
  generalize x.take service input = result at h hway
  -- a line that has no reply does not end in this way
  cases hway with
  | finished | failed | garbled | blank => cases h
  | tooLong => exact hsent (stuck_answer x Reply.tooLong) h
  | @executed bytes line hread hlength hverb hexecuted =>
    have hdispatched := (x.begun line).dispatched service (Request.ofLine line)
    generalize (x.begun line).dispatch service (Request.ofLine line) = result at h hdispatched
    cases hdispatched with
    | unknown => exact hsent (stuck_answer _ _) h
    | refused => exact hsent (stuck_answer _ _) h
    | ran hverb hcontrol => exact hsent (stuck_run _ _ _ hcontrol) h
    | @controlled command =>
      have hstuck := stuck_control (x.begun line) service.control command (Request.ofLine line).argument
      cases hresult : ((x.begun line).control service.control command (Request.ofLine line).argument).1 with
      | ok status =>
        rw [hresult] at h
        cases status <;> cases h
      | error found => exact hstuck found hresult

/-- **A connection that is quit was quit by its client.** -/
theorem closes_of_quits {x : Exchange σ} {service : Service} {input : Input}
    (h : (x.take service input).1 = .quits) : input.Closes service := by
  have hway := x.taken service input
  generalize x.take service input = result at h hway
  cases hway with
  | finished | failed => trivial
  | garbled hread =>
    intro line hline
    cases hread.symm.trans hline
  | tooLong => exact absurd h (ofSent_ne_quits _)
  | blank => cases h
  | @executed bytes line hread hlength hverb hexecuted =>
    -- only a command of the control connection gives a verdict other than whether its reply was sent
    intro found hfound
    obtain rfl := Option.some.inj (hread.symm.trans hfound)
    refine ⟨hlength, ?_⟩
    have hdispatched := (x.begun line).dispatched service (Request.ofLine line)
    generalize (x.begun line).dispatch service (Request.ofLine line) = result at h hdispatched
    cases hdispatched with
    | unknown | refused | ran => exact absurd h (ofSent_ne_quits _)
    | controlled hcommand =>
      obtain rfl := eq_quit_of_quits h
      exact (Command.ofVerb?_eq_quit_iff line).1 hcommand

end Lines

end Exchange

/-! ## The shutdown signal

Only an upload lets time pass with the signal in sight. If the signal comes while it waits for a factory, the wait
ends, and the signal is still on afterwards. -/

/-- A value that takes the shutdown signal back. -/
def Happening.isRevocation {φ : Type} : Happening φ → Bool
  | .signal stopping => !stopping
  | _ => false

namespace Surroundings

variable {φ : Type} {s : Surroundings φ}

/-- The signal stays on, if what happens does not take it back. -/
theorem stopping_apply (h : s.signal.stopping = true) {happening : Happening φ}
    (hkept : happening.isRevocation = false) : (s.apply happening).signal.stopping = true := by
  cases happening with
  | signal stopping =>
    cases stopping with
    | true => rfl
    | false => cases hkept
  | factory | senderGone | tick => exact h

/-- So it does over all that happens. Induction on the happenings. -/
theorem stopping_applyAll {happenings : List (Happening φ)} (h : s.signal.stopping = true)
    (hkept : ∀ happening ∈ happenings, happening.isRevocation = false) :
    (s.applyAll happenings).signal.stopping = true := by
  induction happenings generalizing s with
  | nil => exact h
  | cons happening rest ih =>
    obtain ⟨hfirst, hrest⟩ := List.forall_mem_cons.1 hkept
    exact ih (stopping_apply h hfirst) hrest

/-- A look that tells something ends the wait. -/
theorem ne_waiting_of_look {acquired : Acquired φ} (h : s.look = some acquired) : acquired ≠ .waiting := by
  unfold look at h
  split at h
  · cases h
    exact nofun
  · split at h
    · cases h
      exact nofun
    · cases h

/-- While the server is stopping, every look tells something. -/
theorem look_of_stopping (h : s.signal.stopping = true) : ∃ acquired, s.look = some acquired := by
  unfold look
  split
  · exact ⟨_, rfl⟩
  · rw [h]
    exact ⟨_, rfl⟩

/-- A wait for a factory ends at once when the signal is on, and nothing can happen in it. -/
theorem acquire_of_stopping (h : s.signal.stopping = true) (happenings : List (Happening φ)) :
    (s.acquire happenings).2.1 = s := by
  obtain ⟨acquired, hlook⟩ := look_of_stopping h
  rw [acquire, hlook]

/-- Nobody sleeps through the signal. Induction on what happens before it. -/
theorem sleep_of_signal (before after : List (Happening φ)) :
    (s.sleep (before ++ .signal true :: after)).1 ≠ .waiting := by
  induction before generalizing s with
  | nil =>
    obtain ⟨acquired, hlook⟩ := look_of_stopping (s := s.apply (.signal true)) rfl
    have hnotice : (s.apply (.signal true)).notice (.signal true) = some acquired := hlook
    rw [List.nil_append, sleep, hnotice]
    exact ne_waiting_of_look hlook
  | cons happening before ih =>
    rw [List.cons_append, sleep]
    -- what happens is noticed, which ends the sleep, or the sleep goes on
    split
    · next acquired hnotice =>
      cases happening with
      | factory => cases hnotice
      | signal | tick => exact ne_waiting_of_look hnotice
      | senderGone =>
        cases hnotice
        exact nofun
    · exact ih

/-- **No wait for a factory outlasts the signal**, whatever else happens meanwhile. -/
theorem acquire_of_signal {happenings : List (Happening φ)} (h : .signal true ∈ happenings) :
    (s.acquire happenings).1 ≠ .waiting := by
  obtain ⟨before, after, rfl⟩ := List.append_of_mem h
  unfold acquire
  split
  · next acquired hlook => exact ne_waiting_of_look hlook
  · exact sleep_of_signal before after

end Surroundings

/-- Only `STOR` has to do with the pipeline and with what goes with it. -/
theorem Part.owns_pipeline_of_ne_store {command : Command} (h : command ≠ .store) :
    Part.pipeline.owns command = false := by
  have hverb : Command.table.lookup "STOR" = some .store := by decide
  show (Command.table.lookup "STOR" == some command || false) = false
  rw [hverb, Bool.or_false, beq_eq_false_iff_ne]
  exact fun heq => h (Option.some.inj heq).symm

/-- Whether the shutdown signal is taken back while a command is executed. -/
def Circumstances.revokes (circumstances : Circumstances) : Bool :=
  (circumstances.interim ++ circumstances.waiting).any Happening.isRevocation

namespace Exchange

variable {σ : Type}

/-- The shutdown signal is on, and will not be taken back. -/
structure Stopping (x : Exchange σ) : Prop where
  signal : x.surroundings.signal.stopping = true
  kept : x.circumstances.revokes = false

/-- Opening a data connection takes time, in which the signal stays on. -/
theorem Stopping.afterOpening {x : Exchange σ} (h : x.Stopping) (target : Path) :
    (x.afterOpening target).surroundings.signal.stopping = true := by
  refine Surroundings.stopping_applyAll h.signal fun happening hmem => ?_
  exact Bool.eq_false_iff.2 (List.any_eq_false.1 h.kept happening (List.mem_append_left _ hmem))

variable [Pipeline σ]

/-- Of an upload only its wait for a factory lets anything happen to the surroundings. -/
theorem surroundings_receive (x : Exchange σ) (settings : StoreSettings) (target : Path) (stream : DataStream) :
    (x.receive settings target stream).2.surroundings =
      (x.surroundings.acquire x.circumstances.waiting).2.1 := by
  unfold receive acquireFactory
  rcases x.surroundings.acquire x.circumstances.waiting with ⟨acquired, surroundings, rest⟩
  cases acquired <;> rfl

/-- A `STOR` finds the signal on, and so does everybody after it. -/
theorem Stopping.store {x : Exchange σ} (h : x.Stopping) (settings : StoreSettings) (argument : Option String) :
    (x.store settings argument).2.surroundings.signal.stopping = true := by
  have hanswer (y : Exchange σ) (r : Reply) : (y.answer r).2.surroundings = y.surroundings := by
    rw [answer_snd]
  -- the final reply does nothing to the surroundings
  have hafter : (x.store settings argument).2.surroundings = (x.storeReply settings argument).2.surroundings :=
    hanswer (x.storeReply settings argument).2 (x.storeReply settings argument).1
  rw [hafter]
  unfold storeReply
  cases x.storeTarget argument with
  | error failure => exact h.signal
  | ok target =>
    simp only [openChannel_announce]
    cases x.client.channel.openWith x.circumstances.dial with
    | error fault => exact h.afterOpening target
    | ok stream =>
      show ((x.afterOpening target).receive settings target stream).2.surroundings.signal.stopping = true
      rw [surroundings_receive, Surroundings.acquire_of_stopping (h.afterOpening target)]
      exact h.afterOpening target

/-- **The signal stays on while a line is executed.** Only `STOR` has to do with it at all. -/
theorem Stopping.take {x : Exchange σ} (h : x.Stopping) (service : Service) (input : Input) :
    (x.take service input).2.surroundings.signal.stopping = true := by
  have hkeeps {x' : Exchange σ} {y : Exchange σ} (hkept : Keeps y x' .pipeline)
      (hy : y.surroundings = x.surroundings) : x'.surroundings.signal.stopping = true := by
    rw [hkept.2.1, hy]
    exact h.signal
  rcases x.take_cases service input with ⟨line, -, htake⟩ | ⟨-, hsame | htooLong⟩
  · rw [htake]
    have hway := (x.begun line).dispatched service (Request.ofLine line)
    generalize (x.begun line).dispatch service (Request.ofLine line) = result at hway
    cases hway with
    | unknown => exact hkeeps (keeps_reset_answer _ _ .pipeline) rfl
    | refused => exact hkeeps (keeps_reset_answer _ _ .pipeline) rfl
    | @controlled command =>
      have hother : Part.pipeline.owns (.control command) = false := Part.owns_pipeline_of_ne_store nofun
      exact hkeeps (keeps_control _ _ command _ fun howns => Bool.noConfusion (howns.1.symm.trans hother)) rfl
    | @ran command hverb hcontrol =>
      -- every other command keeps the surroundings as they are
      by_cases hstore : command = .store
      · subst hstore
        have hbegun : (x.begun line).Stopping := ⟨h.signal, h.kept⟩
        exact hbegun.store service.store (Request.ofLine line).argument
      · exact hkeeps (keeps_run _ _ _ hcontrol (Part.owns_pipeline_of_ne_store hstore)) rfl
  · rw [hsame]
    exact h.signal
  · rw [htooLong]
    exact hkeeps (keeps_answer x Reply.tooLong .pipeline) rfl

end Exchange

end FtpIntake

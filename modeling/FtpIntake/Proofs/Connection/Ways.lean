import FtpIntake.Proofs.Connection.Turn
import FtpIntake.Proofs.Exchange.Record
import FtpIntake.Proofs.Text.Utf8

/-!
# The ways of a line

Every line goes one of a few ways, which are set out here once. A statement about all lines is then a case for each way,
and does not look at the code that chooses between them.

* **`Exchange.Dispatched`** has the ways of a request: its verb is unknown, it comes before the login, it belongs to the
  control connection, or it is run as a command.
* **`Exchange.Taken`** has the ways of what was read: there is no line in it, the line is too long or blank, or it is
  logged and its request is dispatched. **`take_cases`** is what is left where only requests count.
* **`take_text`** is the way of a text that is not too long and has a verb, and **`dispatch_eq_control`** and
  **`dispatch_eq_run`** are those of a request whose command may be run.
-/

namespace FtpIntake.Exchange

variable {σ : Type} [Pipeline σ]

/-- The ways of a request, with the verdict and the exchange that each of them leads to. -/
inductive Dispatched (x : Exchange σ) (service : Service) (r : Request) : Verdict × Exchange σ → Prop where
  | unknown (hverb : Command.ofVerb? r.verb = none) :
      Dispatched x service r (x.reset.say (Reply.ofCode ReplyCode.commandUnrecognized))
  | refused {command : Command} (hverb : Command.ofVerb? r.verb = some command) (hout : x.client.loggedIn = false)
      (hclosed : command.allowedBeforeLogin = false) :
      Dispatched x service r (x.reset.say Reply.loginFirst)
  | controlled {command : ControlCommand} (hverb : Command.ofVerb? r.verb = some (.control command))
      (hopen : x.client.loggedIn = true ∨ (Command.control command).allowedBeforeLogin = true) :
      Dispatched x service r
        (.ofStatus (x.control service.control command r.argument).1, (x.control service.control command r.argument).2)
  | ran {command : Command} (hverb : Command.ofVerb? r.verb = some command) (hcontrol : command.isControl = false)
      (hopen : x.client.loggedIn = true ∨ command.allowedBeforeLogin = true) :
      Dispatched x service r
        (.ofSent (x.run service.store command r.argument).1, (x.run service.store command r.argument).2)

/-- **Every request goes one of the ways.** -/
theorem dispatched (x : Exchange σ) (service : Service) (r : Request) :
    Dispatched x service r (x.dispatch service r) := by
  unfold dispatch
  cases hverb : Command.ofVerb? r.verb with
  | none => exact .unknown hverb
  | some command =>
    dsimp only
    -- the gate comes before the choice between control and other commands
    by_cases hgate : (!x.client.loggedIn && !command.allowedBeforeLogin) = true
    · rw [if_pos hgate]
      rw [Bool.and_eq_true, Bool.not_eq_true', Bool.not_eq_true'] at hgate
      exact .refused hverb hgate.1 hgate.2
    · rw [if_neg hgate]
      have hopen : x.client.loggedIn = true ∨ command.allowedBeforeLogin = true := by
        simpa [Bool.or_eq_true, Decidable.or_iff_not_imp_left] using hgate
      cases hcontrol : command.isControl with
      | true =>
        cases command with
        | control command => exact .controlled hverb hopen
        | _ => exact Bool.noConfusion hcontrol
      | false =>
        -- all the commands that are run have this way in common, whatever they do
        have hran : Dispatched x service r (.ofSent (x.run service.store command r.argument).1,
          (x.run service.store command r.argument).2) := .ran hverb hcontrol hopen
        cases command with
        | control command => exact Bool.noConfusion hcontrol
        | _ => exact hran

/-- The exchange in which the request of a line is dispatched: the line is logged and its verb remembered. -/
def begun (x : Exchange σ) (line : String) : Exchange σ :=
  { x.note (.logged (LogRecord.executed (toString x.client.peer) line)) with
    client := x.client.begin (Request.ofLine line).verb }

omit [Pipeline σ] in
/-- Until then the line is on record, and nothing is sent. -/
theorem writes_begun (x : Exchange σ) (line : String) :
    Writes x (x.begun line) [.logged (LogRecord.executed (toString x.client.peer) line)] :=
  (Writes.refl x).note rfl rfl rfl

/-- The ways of what was read, with the verdict and the exchange that each of them leads to. -/
inductive Taken (x : Exchange σ) (service : Service) : Input → Verdict × Exchange σ → Prop where
  | finished : Taken x service .finished (.quits, x)
  | failed (kind : IoKind) : Taken x service (.failed kind) (.quits, x)
  | garbled {bytes : Bytes} (hread : String.fromUTF8? ⟨bytes.toArray⟩ = none) :
      Taken x service (.line bytes) (.quits, x)
  | tooLong {bytes : Bytes} {line : String} (hread : String.fromUTF8? ⟨bytes.toArray⟩ = some line)
      (hlong : ¬line.utf8ByteSize ≤ service.config.maxCommandLength) :
      Taken x service (.line bytes) (x.say Reply.tooLong)
  | blank {bytes : Bytes} {line : String} (hread : String.fromUTF8? ⟨bytes.toArray⟩ = some line)
      (hlength : line.utf8ByteSize ≤ service.config.maxCommandLength) (hempty : (Request.ofLine line).verb = "") :
      Taken x service (.line bytes) (.goesOn, x)
  | executed {bytes : Bytes} {line : String} (hread : String.fromUTF8? ⟨bytes.toArray⟩ = some line)
      (hlength : line.utf8ByteSize ≤ service.config.maxCommandLength) (hverb : (Request.ofLine line).verb ≠ "")
      (hexecuted : (Input.line bytes).executed? service = some (Request.ofLine line)) :
      Taken x service (.line bytes) ((x.begun line).dispatch service (Request.ofLine line))

/-- **Whatever was read goes one of the ways.** -/
theorem taken (x : Exchange σ) (service : Service) (input : Input) : Taken x service input (x.take service input) := by
  cases input with
  | finished => exact .finished
  | failed kind => exact .failed kind
  | line bytes =>
    unfold take
    dsimp only
    cases hread : String.fromUTF8? ⟨bytes.toArray⟩ with
    | none => exact .garbled hread
    | some line =>
      dsimp only
      unfold perform
      -- the length is looked at before the line is taken apart
      by_cases hlong : service.config.maxCommandLength < line.utf8ByteSize
      · rw [if_pos hlong]
        exact .tooLong hread (Nat.not_le.2 hlong)
      rw [if_neg hlong]
      have hlength : line.utf8ByteSize ≤ service.config.maxCommandLength := Nat.not_lt.1 hlong
      dsimp only
      -- a line of white space has no verb; it is passed over without a word
      by_cases hempty : (Request.ofLine line).verb.isEmpty = true
      · rw [if_pos hempty]
        exact .blank hread hlength (String.isEmpty_iff.1 hempty)
      rw [if_neg hempty]
      refine .executed hread hlength (fun h => hempty (String.isEmpty_iff.2 h)) ?_
      unfold Input.executed?
      dsimp only
      rw [hread]
      exact if_neg (not_or.2 ⟨hlong, hempty⟩)

/-- What was read is executed as the request of a line, or it changes nothing but what goes out to the client. -/
theorem take_cases (x : Exchange σ) (service : Service) (input : Input) :
    (∃ line, input.executed? service = some (Request.ofLine line) ∧
        x.take service input = (x.begun line).dispatch service (Request.ofLine line)) ∨
      (input.executed? service = none ∧
        ((x.take service input).2 = x ∨ (x.take service input).2 = (x.answer Reply.tooLong).2)) := by
  have hway := x.taken service input
  -- after this the cases are those of the rules, not those of the code
  generalize x.take service input = result at hway
  cases hway with
  | finished => exact .inr ⟨rfl, .inl rfl⟩
  | failed kind => exact .inr ⟨rfl, .inl rfl⟩
  | garbled hread =>
    refine .inr ⟨?_, .inl rfl⟩
    simp only [Input.executed?, hread]
  | @tooLong bytes line hread hlong =>
    refine .inr ⟨?_, .inr rfl⟩
    simp only [Input.executed?, hread, if_pos (Or.inl (Nat.not_le.1 hlong))]
  | @blank bytes line hread hlength hempty =>
    refine .inr ⟨?_, .inl rfl⟩
    simp only [Input.executed?, hread, if_pos (Or.inr (String.isEmpty_iff.2 hempty))]
  | @executed bytes line hread hlength hverb hexecuted => exact .inl ⟨line, hexecuted, rfl⟩

/-! ## Lines that are executed

The other direction: a line that is short enough and has a verb goes the way of its request. -/

section Executed

variable {x : Exchange σ} {service : Service} {line : String} {r : Request}

/-- A text that is not too long and has a verb is executed. -/
theorem take_text (hlength : line.utf8ByteSize ≤ service.config.maxCommandLength)
    (hverb : (Request.ofLine line).verb ≠ "") :
    (Input.line line.toUTF8.toList).executed? service = some (Request.ofLine line) ∧
      x.take service (.line line.toUTF8.toList) = (x.begun line).dispatch service (Request.ofLine line) := by
  have hlong : ¬service.config.maxCommandLength < line.utf8ByteSize := Nat.not_lt.2 hlength
  have hempty : ¬(Request.ofLine line).verb.isEmpty = true := fun h => hverb (String.isEmpty_iff.1 h)
  unfold Input.executed? take
  dsimp only
  -- the bytes of a text are read as that text
  rw [Text.fromUTF8?_toUTF8]
  dsimp only
  unfold perform
  rw [if_neg (not_or.2 ⟨hlong, hempty⟩), if_neg hlong]
  dsimp only
  rw [if_neg hempty]
  exact ⟨rfl, rfl⟩

omit [Pipeline σ] in
/-- A request whose command may be run gets past the gate before the login. -/
theorem not_gated {command : Command} (hopen : x.client.loggedIn = true ∨ command.allowedBeforeLogin = true) :
    ¬(!x.client.loggedIn && !command.allowedBeforeLogin) = true := by
  rcases hopen with h | h <;> simp [h]

theorem dispatch_eq_control {command : ControlCommand} (hverb : Command.ofVerb? r.verb = some (.control command))
    (hopen : x.client.loggedIn = true ∨ (Command.control command).allowedBeforeLogin = true) :
    x.dispatch service r =
      (.ofStatus (x.control service.control command r.argument).1, (x.control service.control command r.argument).2) := by
  unfold dispatch
  rw [hverb]
  exact if_neg (not_gated hopen)

theorem dispatch_eq_run {command : Command} (hverb : Command.ofVerb? r.verb = some command)
    (hcontrol : command.isControl = false)
    (hopen : x.client.loggedIn = true ∨ command.allowedBeforeLogin = true) :
    x.dispatch service r =
      (.ofSent (x.run service.store command r.argument).1, (x.run service.store command r.argument).2) := by
  unfold dispatch
  rw [hverb]
  dsimp only
  rw [if_neg (not_gated hopen)]
  cases command with
  | control command => exact Bool.noConfusion hcontrol
  | _ => rfl

end Executed

end FtpIntake.Exchange

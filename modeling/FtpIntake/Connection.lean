import FtpIntake.Exchange.Run
import FtpIntake.Service

/-!
# Control connections

A control connection is counted, then greeted or turned away. From then on it looks whether the server is stopping,
waits for a line or for that to happen, and runs the line. `Exchange.perform` says what becomes of one line, and
`ConnectionStep` is everything that a connection does in one go, so that the steps of several connections can be
interleaved. Running a line is one step, although others may act meanwhile. What that comes to depends on what the line
uses:

* What happens to the slot and to the shutdown signal meanwhile is among the circumstances of the line.
* A directory command has to do with the tree in one operation under the lock, so its step stands where this operation
  does. The listing commands look twice, whether the directory is there and then what is in it. Here both are one look:
  a directory that is removed in between is listed as if it were still there, and not as an empty one.
* How several uploads share the pipeline is told by the steps of an `Upload`.
* A request for a passive channel tries its ports one after the other. What the host answers to each is among the
  circumstances too, so that a line can be told of tries that others have come between.

A connection that is lost before it is greeted, or whose own address the host cannot tell any more, never gets to a
line. Both are told as a loss, which may come at any time until a connection has ended.
-/

namespace FtpIntake

/-! ## Replies of the connection itself -/

namespace Reply

def welcome : Reply :=
  ⟨ReplyCode.ready, "Service ready for new user."⟩

def tooManyConnections : Reply :=
  ⟨ReplyCode.serviceNotAvailable, "Too many connections. Try again later."⟩

def shuttingDown : Reply :=
  ⟨ReplyCode.serviceNotAvailable, "Service shutting down, closing control connection."⟩

def tooLong : Reply :=
  ⟨ReplyCode.commandUnrecognized, "Command too long."⟩

def loginFirst : Reply :=
  ⟨ReplyCode.notLoggedIn, "Please login with USER and PASS."⟩

end Reply

/-! ## Input

The connection reads up to a line feed at a time, however the bytes have arrived. -/

/-- What a read of the control connection gives. -/
inductive Input where
  /-- The bytes up to a line feed, which is among them, or up to the end of the input. -/
  | line (bytes : Bytes)
  | finished
  | failed (kind : IoKind)
  deriving DecidableEq

/-- The lines of some bytes, each with its line feed. Only the last one may lack it. -/
def cutLines : Bytes → List Bytes
  | [] => []
  | b :: r =>
    if b = 10 then [b] :: cutLines r
    else
      -- the byte belongs to the line that comes next, or begins the last one
      match cutLines r with
      | [] => [[b]]
      | line :: lines => (b :: line) :: lines

theorem flatten_cutLines (bytes : Bytes) : (cutLines bytes).flatten = bytes := by
  induction bytes with
  | nil => rfl
  | cons b r ih =>
    simp only [cutLines]
    split
    · simp [ih]
    · split
      · next h =>
        rw [h] at ih
        simp [← ih]
      · next h =>
        rw [h] at ih
        simp [← ih]

/-! ## Running a line

A line goes through a few gates: its length, its verb, and the login. Only then is the command looked up. -/

/-- How a connection goes on after a line. -/
inductive Verdict where
  | goesOn
  /-- The client asked for the end. -/
  | quits
  /-- A reply could not be sent. -/
  | breaks (kind : IoKind)
  deriving DecidableEq

/-- The verdict on a command that may only end because a reply could not be sent. -/
def Verdict.ofSent : Sent → Verdict
  | .ok () => .goesOn
  | .error kind => .breaks kind

/-- The verdict on a command of the control connection. -/
def Verdict.ofStatus : Except IoKind CommandStatus → Verdict
  | .ok .closeConnection => .quits
  | .ok _ => .goesOn
  | .error kind => .breaks kind

namespace Exchange

variable {σ : Type} [Pipeline σ]

/-- Sends a reply of the connection itself. -/
def say (x : Exchange σ) (reply : Reply) : Verdict × Exchange σ :=
  let (sent, x) := x.answer reply
  (.ofSent sent, x)

/-- Runs a request whose verb has been remembered. -/
def dispatch (x : Exchange σ) (service : Service) (request : Request) : Verdict × Exchange σ :=
  match Command.ofVerb? request.verb with
  | none => x.reset.say (Reply.ofCode ReplyCode.commandUnrecognized)
  | some command =>
    -- the gate comes before the argument is looked at
    if !x.client.loggedIn && !command.allowedBeforeLogin then x.reset.say Reply.loginFirst
    else
      match command with
      | .control command =>
        let (status, x) := x.control service.control command request.argument
        (.ofStatus status, x)
      | command =>
        let (sent, x) := x.run service.store command request.argument
        (.ofSent sent, x)

/--
Runs a command line. A line with too many bytes is refused unread, and a line without a verb is passed over. Every
other line is logged before it is run.
-/
def perform (x : Exchange σ) (service : Service) (line : String) : Verdict × Exchange σ :=
  -- the length is in bytes, with the line end
  if service.config.maxCommandLength < line.utf8ByteSize then x.say Reply.tooLong
  else
    let request := Request.ofLine line
    -- nothing is logged and nothing is forgotten
    if request.verb.isEmpty then (.goesOn, x)
    else
      let x := x.note (.logged (LogRecord.executed (toString x.client.peer) line))
      { x with client := x.client.begin request.verb }.dispatch service request

/--
Takes what a read gave. The connection ends with the input, with a read that fails, and with a line that is not
UTF-8; there is no reply to any of these.
-/
def take (x : Exchange σ) (service : Service) (input : Input) : Verdict × Exchange σ :=
  match input with
  -- a fault of the read is not told from the end of the input
  | .finished | .failed _ => (.quits, x)
  | .line bytes =>
    match String.fromUTF8? ⟨bytes.toArray⟩ with
    | some line => x.perform service line
    | none => (.quits, x)

/-- Takes what each read gave, up to the first that ends the connection. -/
def takeAll (x : Exchange σ) (service : Service) (inputs : List Input) : Verdict × Exchange σ :=
  match inputs with
  | [] => (.goesOn, x)
  | input :: rest =>
    match x.take service input with
    | (.goesOn, x) => x.takeAll service rest
    | ended => ended

end Exchange

/-! ## Connections

A connection and the steps that it can take. The steps themselves belong to the server, because they need what its
connections share. -/

/-- Where a connection stands. -/
inductive Phase where
  /-- It has been accepted. -/
  | arrived
  /-- It has been counted, as the one in the given place. -/
  | counted (place : Nat)
  /-- It is about to look whether the server is stopping. -/
  | checking
  /-- It waits for a line, and for the server to stop. -/
  | listening
  /-- A read has ended its wait, and what was read has still to be taken. -/
  | executing (input : Input)
  /-- It has ended, and still counts. -/
  | ended
  /-- It no longer counts. -/
  | released
  deriving DecidableEq

/-- A control connection. -/
structure Connection where
  client : Client
  phase : Phase := .arrived
  /-- What it did, the last thing first. -/
  effects : List Effect := []

namespace Phase

/-- Whether a connection was let in and has not ended. -/
def isAdmitted : Phase → Bool
  | .checking | .listening | .executing _ => true
  | _ => false

/-- Whether a connection is among those that are counted. -/
def isCounted : Phase → Bool
  | .counted _ | .checking | .listening | .executing _ | .ended => true
  | _ => false

/-- Where a connection stands after a verdict. -/
def after : Verdict → Phase
  | .goesOn => .checking
  | .quits | .breaks _ => .ended

end Phase

namespace Connection

/-- A connection that was just accepted. -/
def accepted (peer here : Endpoint) : Connection where
  client := { peer, here }
  effects := [.logged (LogRecord.connected (toString peer))]

/-- What a connection wrote. -/
def written (c : Connection) : Bytes :=
  c.client.outgoing.receiver.taken

end Connection

/-- What a connection does in one go. -/
inductive ConnectionStep where
  /-- It counts itself. -/
  | count
  /-- It is greeted, or turned away if there are too many. -/
  | greet
  /-- It looks whether the server is stopping. -/
  | look
  /-- The shutdown signal ends its wait. -/
  | wake
  /-- A read ends its wait. -/
  | hear (input : Input)
  /-- It takes what was read. -/
  | execute (circumstances : Circumstances)
  /-- It stops counting. -/
  | release

end FtpIntake

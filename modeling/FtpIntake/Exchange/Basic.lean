import FtpIntake.Client
import FtpIntake.FactorySlot
import FtpIntake.Listing
import FtpIntake.Upload

/-!
# Exchanges

An exchange is one command and what comes of it. It works on the client that sent the command, the tree, the
surroundings and the pipeline, which all clients share, and it meets *circumstances* that nobody controls: whether
a data connection comes about and what arrives on it, how long the connection is willing to wait, what happens to
the slot while an upload waits, which ports the host grants, and what the clock shows. Circumstances are values,
so an exchange is a function, and a statement about all of them is a statement for all values.

An exchange also keeps a record of its effects, in the order in which they came about.
-/

namespace FtpIntake

/-- Names a factory of work sessions. -/
abbrev FactoryId : Type := Nat

/-- What one command meets. -/
structure Circumstances where
  /-- What the network answers when the data connection is opened. -/
  dial : DataChannel.Dial DataStream := .timedOut
  /-- How many offers the announcement of an upload may make before its time is up. -/
  patience : Option Nat := none
  /-- What happens while that announcement is sent. -/
  interim : List (Happening FactoryId) := []
  /-- What happens while an upload waits for a factory. -/
  waiting : List (Happening FactoryId) := []
  /-- Which ports the host grants. -/
  bind : DataChannel.Binder := fun _ => none
  /-- What the clock shows at each reading. -/
  clock : Nat → Nat := fun _ => 0

/-- What an exchange did that others can notice. -/
inductive Effect where
  | stateReset
  | channelClosed
  | channelOpened
  | replyQueued (reply : Reply)
  /-- Bytes that went out on the data connection. -/
  | sent (bytes : Bytes)
  | called (record : CallRecord)
  | logged (record : LogRecord)

/-- A command in progress. -/
structure Exchange (σ : Type) where
  client : Client
  tree : Tree
  surroundings : Surroundings FactoryId
  pipeline : σ
  circumstances : Circumstances
  /-- What the exchange did, the last thing first. -/
  effects : List Effect := []

/-- How an exchange that sends replies ends: the control connection may fail. -/
abbrev Sent : Type := Except IoKind Unit

namespace Exchange

variable {σ : Type}

/-- Records an effect. -/
def note (x : Exchange σ) (effect : Effect) : Exchange σ :=
  { x with effects := effect :: x.effects }

/-- The effects in the order in which they came about. -/
def history (x : Exchange σ) : List Effect :=
  x.effects.reverse

/-- Clears what the client remembers of the command. -/
def reset (x : Exchange σ) : Exchange σ :=
  { x with client := x.client.reset }.note .stateReset

/-- Gives up the data channel. -/
def closeChannel (x : Exchange σ) : Exchange σ :=
  { x with client := x.client.closeChannel }.note .channelClosed

/-- Puts a reply into the queue. -/
def queue (x : Exchange σ) (r : Reply) : Exchange σ :=
  { x with client := x.client.queue r }.note (.replyQueued r)

/-- Sends the queued replies. -/
def flushAll (x : Exchange σ) : Sent × Exchange σ :=
  let (sent, client) := x.client.flushAll
  (sent, { x with client })

/-- Queues a reply and sends it. -/
def answer (x : Exchange σ) (r : Reply) : Sent × Exchange σ :=
  (x.queue r).flushAll

/-- Opens the data connection. -/
def openChannel (x : Exchange σ) : Except TransferFault DataStream × Exchange σ :=
  -- the attempt is recorded, also one that fails
  (x.client.channel.openWith x.circumstances.dial, x.note .channelOpened)

/-- The path that a text leads to from the client's directory. -/
def lookup (x : Exchange σ) (raw : String) : Path :=
  x.client.cursor.lookup raw

end Exchange

/-! ## Replies of several commands -/

namespace Reply

/-- The reply to a command whose argument is missing. -/
def argumentError : Reply :=
  ofCode ReplyCode.argumentError

/-- The reply to a command about a directory that does not exist. -/
def noSuchDirectory (argument : String) : Reply :=
  ⟨ReplyCode.actionNotTaken, argument ++ ": No such directory."⟩

/-- What a transfer command says that has no data channel to use. -/
def notNegotiatedText : String :=
  "PORT or PASV must be issued first."

end Reply

end FtpIntake

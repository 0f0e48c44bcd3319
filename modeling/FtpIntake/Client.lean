import FtpIntake.Credentials
import FtpIntake.Cursor
import FtpIntake.DataChannel
import FtpIntake.Outgoing
import FtpIntake.Reply

/-!
# Clients

What the server remembers of a connected client: where it is connected from and to, how far its login has come,
its place in the namespace, its data channel, and the replies that are on their way to it.
-/

namespace FtpIntake

/-- The state of one control connection. -/
structure Client where
  /-- The client's side of the control connection. -/
  peer : Endpoint
  /-- The server's side of it. -/
  here : Endpoint
  /-- The name that `USER` gave, if it was accepted. -/
  user : Option String := none
  loggedIn : Bool := false
  /-- The verb that is being executed. -/
  command : Option String := none
  cursor : Cursor := Cursor.start
  channel : DataChannel := .idle
  outgoing : Outgoing := {}

namespace Client

/-- The bytes of a reply on the control connection. -/
def wireBytes (r : Reply) : Bytes :=
  r.wire.toUTF8.toList

/-- Forgets the login and the data channel. -/
def logout (c : Client) : Client :=
  { c with user := none, loggedIn := false, channel := .idle }

/-- Puts a reply into the queue. -/
def queue (c : Client) (r : Reply) : Client :=
  { c with outgoing := c.outgoing.push (wireBytes r) }

/-- Sends the queued replies. -/
def flush (c : Client) (patience : Option Nat := none) : FlushEnd × Client :=
  let (ending, outgoing) := c.outgoing.flush patience
  (ending, { c with outgoing })

/-- Sends the queued replies, and fails if the connection does. -/
def flushAll (c : Client) : Except IoKind Unit × Client :=
  match c.flush with
  | (.failed kind, c) => (.error kind, c)
  | (_, c) => (.ok (), c)

/-- Queues a reply and sends it. -/
def answer (c : Client) (r : Reply) : Except IoKind Unit × Client :=
  (c.queue r).flushAll

/-- Remembers the verb that is being executed. -/
def begin (c : Client) (verb : String) : Client :=
  { c with command := some verb }

/-- Forgets the verb that was executed. -/
def reset (c : Client) : Client :=
  { c with command := none }

/-- Gives up the data channel. -/
def closeChannel (c : Client) : Client :=
  { c with channel := .idle }

end Client

end FtpIntake

import FtpIntake.DataStream

/-!
# Outgoing bytes of a control connection

Replies are queued and then flushed. A flush offers the queued bytes to the connection again and again; each time
the connection takes some of them, from the front, or fails. What it has not taken stays queued, in order, and goes
out with the next flush, also when a flush is broken off because its time is up.

What a connection has taken is out of the server's hands. The connection is asked to pass it on once the queue is
empty; that this may fail is not told here.
-/

namespace FtpIntake

/-- What a connection does when bytes are offered to it. -/
inductive WriteResponse where
  | takeAll
  /-- Takes the given number of bytes, or all that are offered if they are fewer. -/
  | take (count : Nat)
  | fail (kind : IoKind)
  deriving DecidableEq

/--
The receiving side of a control connection: what it does next, given how often it was offered bytes and how many
it has taken so far, and everything it has taken.
-/
structure Receiver where
  respond : (offers taken : Nat) → WriteResponse
  offers : Nat := 0
  taken : Bytes := []

namespace Receiver

/-- A receiver that takes whatever it is offered. -/
def willing : Receiver where
  respond _ _ := .takeAll

/-- Takes at most `chunk` bytes at a time and at most `limit` in total; then `full` is its response. -/
def limited (chunk limit : Option Nat) (full : WriteResponse) : Receiver where
  respond _ taken :=
    match chunk, limit with
    | none, none => .takeAll
    | some chunk, none => .take chunk
    | _, some limit =>
      if taken < limit then .take (min (chunk.getD (limit - taken)) (limit - taken)) else full

/-- Responds as listed, one response for each offer, and takes whatever it is offered after that. -/
def scripted (responses : List WriteResponse) : Receiver where
  respond offers _ := (responses[offers]?).getD .takeAll

instance : Inhabited Receiver := ⟨willing⟩

/-- Takes the first `count` of the bytes that are offered. -/
def takeFirst (r : Receiver) (count : Nat) (bytes : Bytes) : Except IoKind Nat × Receiver :=
  (.ok (min count bytes.length), { r with offers := r.offers + 1, taken := r.taken ++ bytes.take count })

/-- Offers bytes: how many were taken, or how the offer failed. -/
def offer (r : Receiver) (bytes : Bytes) : Except IoKind Nat × Receiver :=
  match r.respond r.offers r.taken.length with
  | .takeAll => r.takeFirst bytes.length bytes
  | .take count => r.takeFirst count bytes
  | .fail kind => (.error kind, { r with offers := r.offers + 1 })

end Receiver

/-- How a flush ended. -/
inductive FlushEnd where
  | done
  | failed (kind : IoKind)
  /-- Its time was up. -/
  | brokenOff
  deriving DecidableEq

/-- The queued bytes and the connection they are for. -/
structure Outgoing where
  queued : Bytes := []
  receiver : Receiver := Receiver.willing

namespace Outgoing

/-- Queues bytes behind the others. -/
def push (o : Outgoing) (bytes : Bytes) : Outgoing :=
  { o with queued := o.queued ++ bytes }

/--
Offers the queued bytes until none are left. With `patience` the flush is broken off after that many offers. A
connection that takes nothing although it is offered something has failed.
-/
def flush (patience : Option Nat) (o : Outgoing) : FlushEnd × Outgoing :=
  if o.queued = [] then (.done, o)
  else if patience = some 0 then (.brokenOff, o)
  else
    match o.receiver.offer o.queued with
    | (.error kind, receiver) => (.failed kind, { o with receiver })
    | (.ok n, receiver) =>
      if n = 0 then (.failed .writeZero, { o with receiver })
      else flush (patience.map (· - 1)) { queued := o.queued.drop n, receiver }
termination_by o.queued.length
decreasing_by
  have := List.length_pos_iff.2 ‹¬o.queued = []›
  simp only [List.length_drop]
  omega

end Outgoing

end FtpIntake

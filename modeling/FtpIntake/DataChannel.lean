import FtpIntake.Fault
import FtpIntake.Net.DataAddress

/-!
# Data channels

Each control connection has one data channel. `PORT` and `EPRT` make it active: the server will connect to an
address of the client. `PASV` and `EPSV` make it passive: the server listens, and only the client may connect.
A channel serves one transfer and is idle afterwards.

Three things about a data connection are not decided here: which ports the host grants, who connects, and how long
that takes. A `Binder` and a `Dial` stand for them. That the host cannot tell the address of a port it has just
granted is not among the things that happen.
-/

namespace FtpIntake

/-- How the next data connection of a client will come about. -/
inductive DataChannel where
  | idle
  /-- The server listens on `here` for a connection from `owner`. -/
  | passive (here : Endpoint) (owner : Ip)
  /-- The server will connect to `target`. -/
  | active (target : Endpoint)
  deriving DecidableEq

namespace DataChannel

/-- Whether a data connection has been prepared. -/
def isNegotiated : DataChannel → Bool
  | .idle => false
  | _ => true

/-- The endpoint that a passive channel listens on. -/
def localEndpoint? : DataChannel → Option Endpoint
  | .passive here _ => some here
  | _ => none

/-! ## Active channels -/

/-- The lowest port that the server connects to. -/
def lowestActivePort : UInt16 := 1024

/--
The active channel to a target. The target must be an address of the client itself, and its port must not be
one of the well-known ports.
-/
def activate (target client : Endpoint) : Except TransferFault DataChannel :=
  if target.ip ≠ client.ip then
    .error (.foreignAddress (toString client.ip) (toString target.ip))
  else if target.port < lowestActivePort then .error (.badPort target.port)
  else .ok (.active target)

/-- The target that the argument of `PORT` gives. -/
def portTarget (argument : String) : Except TransferFault Endpoint :=
  match DataAddress.readPort argument.toList with
  | some target => .ok target
  | none => .error (.badArgument argument)

/-- The target that the argument of `EPRT` gives. -/
def extendedTarget (argument : String) : Except TransferFault Endpoint :=
  match DataAddress.readExtended argument.toList with
  | some target => .ok target
  | none => .error (.badArgument argument)

/-! ## Passive channels -/

/--
What the host does with a request to listen: the port that it gives to the address and port asked for, or
`none` if it refuses. A request for port 0 leaves the choice to the host.
-/
abbrev Binder : Type := Endpoint → Option UInt16

/-- The ports from `low` to `high`, in order. -/
def portRange (low high : UInt16) : List UInt16 :=
  (List.range' low.toNat (high.toNat + 1 - low.toNat)).map UInt16.ofNat

/-- The passive channel on the first port of a range that the host grants. -/
def listen (bind : Binder) (here : Ip) (owner : Ip) (ports : List UInt16) :
    Except TransferFault DataChannel :=
  match ports.findSome? fun port => bind ⟨here, port⟩ with
  | some port => .ok (.passive ⟨here, port⟩ owner)
  | none => .error .noPortLeft

/-! ## Opening -/

/-- What the network answers when a data connection is to be opened: a connection to `peer`, or none. -/
inductive Dial (α : Type) where
  | connected (peer : Ip) (stream : α)
  | failed (cause : IoFault)
  | timedOut

/--
Opens the data connection. On a passive channel the first to connect must be the owner; on an active channel
the connection goes to the target.
-/
def openWith {α : Type} (channel : DataChannel) (dial : Dial α) : Except TransferFault α :=
  match channel, dial with
  | .idle, _ => .error .notNegotiated
  | .passive here _, .timedOut => .error (.timedOut here)
  | .passive _ _, .failed cause => .error (.failed cause)
  | .passive _ owner, .connected peer stream =>
    if peer = owner then .ok stream
    else .error (.foreignAddress (toString owner) (toString peer))
  | .active target, .timedOut => .error (.timedOut target)
  | .active _, .failed cause => .error (.failed cause)
  | .active _, .connected _ stream => .ok stream

end DataChannel

end FtpIntake

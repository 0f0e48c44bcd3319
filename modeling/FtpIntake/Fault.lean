import FtpIntake.Entry
import FtpIntake.Log
import FtpIntake.Net.Endpoint

/-!
# Faults

Everything that can go wrong, by cause, with one function for the wording and one for the reply code of each
kind. A fault of one part of the server is carried as a `Fault` when it reaches the log.

The wordings are those that the log shows; a client is told a fault by its code and by the text of the reply that has
met it. Which kinds of input and output faults there are is given by the host, and only their names are kept.
-/

namespace FtpIntake

/-! ## Input and output -/

/-- The kinds of failure that an operation on a connection or a socket reports. -/
inductive IoKind where
  | connectionReset
  | connectionAborted
  | connectionRefused
  | brokenPipe
  | unexpectedEof
  | notConnected
  | timedOut
  | invalidData
  | invalidInput
  | permissionDenied
  | notFound
  | writeZero
  | addressInUse
  | networkUnreachable
  | other
  deriving DecidableEq

/-- A failed operation on a connection or a socket, with the words it was reported in. -/
structure IoFault where
  kind : IoKind
  text : String
  deriving DecidableEq

/-! ## The parts of the server -/

/-- Why a login was refused. -/
inductive LoginFault where
  | wrongPassword (user : String)
  | unknownUser (user : String)
  | malformed (what : String)
  | notLoggedIn
  deriving DecidableEq

/-- Why an operation on an entry was refused. -/
inductive NamespaceFault where
  | unsupported (operation : String)
  deriving DecidableEq

/-- Why a data connection was not prepared or not opened. -/
inductive TransferFault where
  | notNegotiated
  | bindFailed (address : Endpoint) (cause : IoFault)
  | noPortLeft
  | timedOut (address : Endpoint)
  | badArgument (argument : String)
  | foreignAddress (expected provided : String)
  | badPort (port : UInt16)
  | failed (cause : IoFault)
  deriving DecidableEq

/-- Why the pipeline refused a call. -/
inductive PipelineFault where
  | unknownUnit (unit : Nat)
  | write (cause : IoFault)
  | commit (reason : String)
  deriving DecidableEq

/-- Why a configuration was not accepted. -/
inductive ConfigFault where
  /-- A rule between or about the values is broken. -/
  | invalid (reason : String)
  /-- A file is no document of its format. -/
  | malformed
  /-- A value has the wrong type. -/
  | wrongType (found expected : String)
  deriving DecidableEq

/-- Why the server was not made or not started. -/
inductive ServerFault where
  | credentials (reason : String)
  | bind (address : String) (cause : IoFault)
  | config (cause : ConfigFault)
  | alreadyStarted
  deriving DecidableEq

/-- A fault of any part. -/
inductive Fault where
  | login (fault : LoginFault)
  | namespace (fault : NamespaceFault)
  | transfer (fault : TransferFault)
  | pipeline (fault : PipelineFault)
  | server (fault : ServerFault)
  | io (fault : IoFault)
  deriving DecidableEq

/-! ## Wording -/

def LoginFault.message : LoginFault → String
  | .wrongPassword user => "Invalid password for user: " ++ user
  | .unknownUser user => "User not found: " ++ user
  | .malformed what => "Malformed input: " ++ what
  | .notLoggedIn => "User not logged in"

def NamespaceFault.message : NamespaceFault → String
  | .unsupported operation => "Unsupported operation: " ++ operation

/-- The fault of an operation that no entry supports. -/
def NamespaceFault.ofUnsupported (operation : Entry.Unsupported) : NamespaceFault :=
  .unsupported operation.label

def TransferFault.message : TransferFault → String
  | .notNegotiated => "Data channel not initialized"
  | .bindFailed address cause => "Failed to bind to " ++ toString address ++ ": " ++ cause.text
  | .noPortLeft => "No available port for data connection"
  | .timedOut address => "Timeout waiting for data connection on " ++ toString address
  | .badArgument argument => "Invalid PORT command: " ++ argument
  | .foreignAddress expected provided => "IP mismatch: expected " ++ expected ++ ", got " ++ provided
  | .badPort port => "Invalid port " ++ toString port.toNat ++ ": must be between 1024 and 65535"
  | .failed cause => "Transfer failed: " ++ cause.text

def PipelineFault.message : PipelineFault → String
  | .unknownUnit unit => "Unknown unit of work: " ++ toString unit
  | .write cause => "Failed to write unit content: " ++ cause.text
  | .commit reason => "Commit failed: " ++ reason

def ConfigFault.message : ConfigFault → String
  | .invalid reason => reason
  | .malformed => "malformed configuration"
  | .wrongType found expected => "invalid type: " ++ found ++ ", expected " ++ expected

def ServerFault.message : ServerFault → String
  | .credentials reason => "Invalid credentials: " ++ reason
  | .bind address cause => "Failed to bind to " ++ address ++ ": " ++ cause.text
  | .config cause => "Configuration error: " ++ cause.message
  | .alreadyStarted => "Server already started"

/-- The words of a fault without the part it comes from. -/
def Fault.innerMessage : Fault → String
  | .login fault => fault.message
  | .namespace fault => fault.message
  | .transfer fault => fault.message
  | .pipeline fault => fault.message
  | .server fault => fault.message
  | .io fault => fault.text

/-- The part of the server that a fault comes from. -/
def Fault.origin : Fault → String
  | .login _ => "Authentication error"
  | .namespace _ => "Storage error"
  | .transfer _ => "Transfer error"
  | .pipeline _ => "Pipeline error"
  | .server _ => "Server error"
  | .io _ => "I/O error"

/-- The words of a fault. -/
def Fault.message (fault : Fault) : String :=
  fault.origin ++ ": " ++ fault.innerMessage

/-! ## What follows from a fault -/

/-- The reply code of a data connection that could not be prepared or opened. -/
def TransferFault.replyCode : TransferFault → Nat
  | .badArgument _ | .foreignAddress _ _ | .badPort _ => 501
  | .notNegotiated => 503
  | .bindFailed _ _ | .noPortLeft | .timedOut _ | .failed _ => 425

/-- The reply code of a fault. -/
def Fault.replyCode : Fault → Nat
  | .login _ => 530
  | .namespace _ => 550
  | .transfer fault => fault.replyCode
  | .pipeline _ => 451
  | .server _ => 421
  | .io _ => 451

/-- A failure of the data connection as a failure of input and output. -/
def TransferFault.toIoFault : TransferFault → IoFault
  | .bindFailed _ cause | .failed cause => cause
  | .timedOut address => ⟨.timedOut, (TransferFault.timedOut address).message⟩
  | fault => ⟨.notConnected, fault.message⟩

/-- The log record of a fault that ended a connection. -/
def LogRecord.fault (fault : Fault) : LogRecord :=
  ⟨.error, "FTP Server Error: " ++ fault.message⟩

end FtpIntake

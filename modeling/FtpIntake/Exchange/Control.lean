import FtpIntake.Exchange.Basic

/-!
# Commands of the control connection

Login, transfer parameters, status, and the negotiation of the data channel. Each of them decides on one reply and
on what becomes of the client; then the client's state is cleared and the reply is sent.
-/

namespace FtpIntake

open Text

/-- How a command of the control connection came out. -/
inductive CommandStatus where
  | success
  | failure (reason : String)
  | closeConnection
  deriving DecidableEq

/-- A reply, how the command came out, and the client afterwards. -/
structure Decision where
  reply : Reply
  status : CommandStatus
  client : Client

/-- What the control connection needs to know of the configuration. -/
structure ControlSettings where
  credentials : Credentials
  dataPorts : List UInt16

namespace Decision

/-- A command that succeeds. -/
def succeed (client : Client) (code : Nat) (message : String) : Decision :=
  ⟨⟨code, message⟩, .success, client⟩

/-- A command that fails for the reason that the reply gives. -/
def fail (client : Client) (code : Nat) (reason : String) : Decision :=
  ⟨⟨code, reason⟩, .failure reason, client⟩

/-- A command that fails with the general text of a code. -/
def failPlainly (client : Client) (code : Nat) : Decision :=
  fail client code (ReplyCode.defaultMessage code)

/-! ## Login

A name is given first and a password after it. A wrong password takes the name back as well. -/

/-- `USER`. An earlier login is forgotten, and so is the data channel, whether or not the name is accepted. -/
def user (credentials : Credentials) (client : Client) : Option String → Decision
  | none => fail client ReplyCode.argumentError "Username required."
  | some name =>
    -- the login is gone in both cases
    match credentials.checkUser name with
    | .ok () =>
      succeed { client.logout with user := name } ReplyCode.passwordRequired
        ("User name okay, need password for " ++ name ++ ".")
    | .error _ => fail client.logout ReplyCode.notLoggedIn "Invalid username."

/-- `PASS`. A missing password is an empty one. -/
def pass (credentials : Credentials) (client : Client) (argument : Option String) : Decision :=
  -- the password is not looked at
  if client.loggedIn then succeed client ReplyCode.loggedIn "Already logged in."
  else
    match client.user with
    | none => fail client ReplyCode.badSequence "Login with USER first."
    | some name =>
      match credentials.checkPassword name (argument.getD "") with
      | .ok () => succeed { client with loggedIn := true } ReplyCode.loggedIn "User logged in, proceed."
      | .error fault => fail client.logout (Fault.login fault).replyCode "Authentication failed."

/-! ## Parameters

The server transfers bytes as they are, so it accepts the settings that come to that, under every name that they have.
-/

/-- The argument in upper case. -/
def upper (argument : String) : List Char :=
  Request.upperCase argument.toList

/-- `TYPE`. Image and ASCII are accepted and mean the same. -/
def type (client : Client) : Option String → Decision
  | none => fail client ReplyCode.argumentError "Type required."
  | some argument =>
    if upper argument ∈ ["I".toList, "L 8".toList] then succeed client ReplyCode.okay "Type set to I."
    else if upper argument ∈ ["A".toList, "A N".toList] then succeed client ReplyCode.okay "Type set to A."
    else fail client ReplyCode.parameterNotImplemented "Type not implemented for that parameter."

/-- A command that accepts one value of its parameter, in any case. -/
def onlyAccept (client : Client) (accepted : Char) (message : String) : Option String → Decision
  | none => failPlainly client ReplyCode.argumentError
  | some argument =>
    if upper argument = [accepted] then succeed client ReplyCode.okay message
    else fail client ReplyCode.parameterNotImplemented "Command not implemented for that parameter."

/-- `OPTS`. Every option that begins with `UTF8` is accepted. -/
def opts (client : Client) : Option String → Decision
  | none => failPlainly client ReplyCode.argumentError
  | some argument =>
    -- only the beginning is compared
    if "UTF8".toList.isPrefixOf (upper argument) then
      succeed client ReplyCode.okay "Always in UTF8 mode."
    else fail client ReplyCode.parameterNotImplemented "Option not supported."

/-- `STAT`. -/
def stat (client : Client) : Decision :=
  succeed client ReplyCode.systemStatus
    ("FTP server status:\nConnected from " ++ toString client.peer ++ "\nLogged in as " ++
      client.user.getD "-" ++ "\nEnd of status.")

/-! ## Data channels

A channel replaces the one before it, if it could be made. -/

/-- Replaces the data channel by a passive one, if the host grants a port. -/
def listen (bind : DataChannel.Binder) (ports : List UInt16) (client : Client) :
    Except TransferFault (Endpoint × Client) := do
  let channel ← DataChannel.listen bind client.here.ip client.peer.ip ports
  match channel.localEndpoint? with
  | some here => return (here, { client with channel })
  | none => .error .notNegotiated

/-- `PASV`, which can name IPv4 addresses only. -/
def pasv (bind : DataChannel.Binder) (ports : List UInt16) (client : Client) : Decision :=
  if !client.here.ip.isIpv4 then
    fail client ReplyCode.cannotOpenDataConnection "PASV requires IPv4, use EPSV."
  else
    -- the old channel is given up only when a port has been granted
    match listen bind ports client with
    | .error _ => failPlainly client ReplyCode.cannotOpenDataConnection
    | .ok (here, client) =>
      match DataAddress.passiveText? here with
      | some text =>
        succeed client ReplyCode.enteringPassiveMode ("Entering Passive Mode " ++ text ++ ".")
      | none => fail client ReplyCode.cannotOpenDataConnection "PASV requires IPv4."

/-- `EPSV`. -/
def epsv (bind : DataChannel.Binder) (ports : List UInt16) (client : Client) : Decision :=
  match listen bind ports client with
  | .error _ => failPlainly client ReplyCode.cannotOpenDataConnection
  | .ok (here, client) =>
    succeed client ReplyCode.enteringExtendedPassiveMode
      ("Entering Extended Passive Mode (|||" ++ toString here.port.toNat ++ "|).")

/-- Replaces the data channel by an active one to the given target. A target that is refused changes nothing. -/
def activate (client : Client) (verb : String) (target : Except TransferFault Endpoint) : Decision :=
  -- a target that cannot be read and one that is not allowed are told apart by the fault alone
  match target >>= fun target => DataChannel.activate target client.peer with
  | .ok channel => succeed { client with channel } ReplyCode.okay (verb ++ " command successful.")
  | .error fault => fail client fault.replyCode ("Illegal " ++ verb ++ " command.")

/-- `PORT` and `EPRT`: the target is read off the argument. -/
def activateFrom (client : Client) (verb : String) (read : String → Except TransferFault Endpoint) :
    Option String → Decision
  | none => activate client verb (.error (.badArgument "missing argument"))
  | some argument => activate client verb (read argument)

/-! ## All commands

One decision for each command. The reply is sent afterwards, and whether it can be sent does not change the decision.
-/

/-- What a command of the control connection decides. -/
def make (settings : ControlSettings) (bind : DataChannel.Binder) (client : Client)
    (command : ControlCommand) (argument : Option String) : Decision :=
  match command with
  | .user => user settings.credentials client argument
  | .pass => pass settings.credentials client argument
  | .quit =>
    ⟨⟨ReplyCode.closingControlConnection, "Goodbye."⟩, .closeConnection, client.logout⟩
  | .noop => succeed client ReplyCode.okay "NOOP okay."
  | .syst => succeed client ReplyCode.systemType "UNIX Type: L8"
  | .type => type client argument
  | .mode => onlyAccept client 'S' "Mode set to S." argument
  | .stru => onlyAccept client 'F' "Structure set to F." argument
  | .feat =>
    succeed client ReplyCode.systemStatus
      "Extensions supported:\n EPRT\n EPSV\n MDTM\n MLSD\n SIZE\n UTF8\nEnd"
  | .opts => opts client argument
  -- ABOR closes the channel whether or not there is one
  | .abor => succeed client.closeChannel ReplyCode.dataConnectionOpen "ABOR command successful."
  | .stat => stat client
  | .pasv => pasv bind settings.dataPorts client
  | .epsv => epsv bind settings.dataPorts client
  | .port => activateFrom client "PORT" DataChannel.portTarget argument
  | .eprt => activateFrom client "EPRT" DataChannel.extendedTarget argument

end Decision

namespace Exchange

variable {σ : Type}

/-- Runs a command of the control connection. -/
def control (x : Exchange σ) (settings : ControlSettings) (command : ControlCommand)
    (argument : Option String) : Except IoKind CommandStatus × Exchange σ :=
  let decision := Decision.make settings x.circumstances.bind x.client command argument
  -- the client is settled before the reply is sent, so a failed reply undoes nothing
  match ({ x with client := decision.client }.reset).answer decision.reply with
  | (.ok (), x) => (.ok decision.status, x)
  | (.error kind, x) => (.error kind, x)

end Exchange

end FtpIntake

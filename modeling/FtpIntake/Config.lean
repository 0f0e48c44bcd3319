import FtpIntake.Exchange.Store
import FtpIntake.Setting.Environment
import FtpIntake.Toml.Document

/-!
# The configuration of a server

Every field has a default, so that nothing has to be configured for a working server with anonymous access. A
configuration is loaded from two files and the environment; the later source wins field by field. `Config.check` says
which combinations make no sense.
-/

namespace FtpIntake

open Text

/-- What a server can be configured to do. -/
structure Config where
  /-- The address that the control connection is bound to. -/
  bindAddress : String := "127.0.0.1"
  /-- The port of the control connection. With zero any free port will do. -/
  controlPort : UInt16 := 2121
  /-- The first and the last port for passive data connections. With two zeros any free port will do. -/
  dataPortMin : UInt16 := 50000
  dataPortMax : UInt16 := 50100
  /-- Access is anonymous when no name is configured. -/
  username : Option String := none
  password : Option String := none
  /-- How many clients may be connected at the same time. -/
  maxClients : Nat := 10
  /-- How many bytes a command line may have, its end included. -/
  maxCommandLength : Nat := 512
  /-- How many bytes of an upload are read at a time. -/
  bufferSize : Nat := 8192
  /-- Seconds that a data connection may take to open. -/
  connectionTimeout : Nat := 10
  /-- Milliseconds between two looks at a slot without a factory. -/
  sessionPollInterval : Nat := 10
  /-- Seconds that the announcement of an upload may take to be sent. -/
  replyFlushTimeout : Nat := 10
  deriving DecidableEq

namespace Config

/-! ## What makes sense

The checks are made in a fixed order, and the first that fails is reported. -/

/-- The first thing that is wrong with a configuration. -/
def defect? (config : Config) : Option String :=
  if config.bindAddress.toList.all isBlank then some "bind_address cannot be empty"
  else if config.dataPortMax < config.dataPortMin then some "data_port_min must not exceed data_port_max"
  -- a zero asks the host for any port, which is no way to begin a range
  else if config.dataPortMin = 0 ∧ config.dataPortMax ≠ 0 then
    some "data port range must be 0..=0 (ephemeral) or start above 0"
  else if config.username.isSome ∧ config.password.isNone then
    some "password is required when username is set"
  else if config.maxClients = 0 then some "max_clients must be greater than 0"
  else if config.bufferSize = 0 then some "buffer_size must be greater than 0"
  else if config.sessionPollInterval = 0 then some "session_poll_interval_ms must be greater than 0"
  else none

/-- Accepts a configuration that makes sense. -/
def check (config : Config) : Except ConfigFault Unit :=
  match config.defect? with
  | some defect => .error (.invalid defect)
  | none => .ok ()

/-! ## What follows from it -/

/-- The address and port of the control connection, as they are configured. -/
def controlSocket (config : Config) : String :=
  config.bindAddress ++ ":" ++ toString config.controlPort.toNat

/-- How uploads are taken. -/
def storeSettings (config : Config) : StoreSettings :=
  ⟨config.bufferSize, config.sessionPollInterval, config.replyFlushTimeout⟩

/-! ## Loading

Every field is converted before any check is made. A field that no source names has its default, which is not
converted. -/

/-- The value of a field, converted as the field needs it, or its default. -/
def field {α : Type} (settings : Settings) (name : String) (convert : Setting → Except ConfigFault α) (default : α) :
    Except ConfigFault α :=
  match settings.get? name with
  | some setting => convert setting
  | none => .ok default

/-- A port number keeps the low sixteen bits of a configured number. -/
def toPort (setting : Setting) : Except ConfigFault UInt16 :=
  -- a number above 65535 is not refused
  setting.toNat.map UInt16.ofNat

/-- A text that need not be there. -/
def toOptionalText : Setting → Except ConfigFault (Option String)
  | .missing => .ok none
  | setting => setting.toText.map some

/-- The configuration that some settings give. Settings without a field are ignored. -/
def ofSettings (settings : Settings) : Except ConfigFault Config := do
  let defaults : Config := {}
  return {
    bindAddress := ← field settings "bind_address" Setting.toText defaults.bindAddress
    controlPort := ← field settings "control_port" toPort defaults.controlPort
    dataPortMin := ← field settings "data_port_min" toPort defaults.dataPortMin
    dataPortMax := ← field settings "data_port_max" toPort defaults.dataPortMax
    username := ← field settings "username" toOptionalText defaults.username
    password := ← field settings "password" toOptionalText defaults.password
    maxClients := ← field settings "max_clients" Setting.toNat defaults.maxClients
    maxCommandLength := ← field settings "max_command_length" Setting.toNat defaults.maxCommandLength
    bufferSize := ← field settings "buffer_size" Setting.toNat defaults.bufferSize
    connectionTimeout := ← field settings "connection_timeout_secs" Setting.toNat defaults.connectionTimeout
    sessionPollInterval := ← field settings "session_poll_interval_ms" Setting.toNat defaults.sessionPollInterval
    replyFlushTimeout := ← field settings "reply_flush_timeout_secs" Setting.toNat defaults.replyFlushTimeout }

/-- Where a configuration is loaded from. A file that does not exist says nothing. -/
structure Sources where
  /-- The file in the directory of the server's own name. -/
  sharedFile : Option String
  /-- The file in the working directory. -/
  localFile : Option String
  /-- The variables of the environment. -/
  environment : List (String × String)

/-- The settings of a file. -/
def fileSettings (file : Option String) : Except ConfigFault Settings :=
  match file with
  | none => .ok []
  | some document =>
    match Toml.settings? document with
    | some settings => .ok settings
    | none => .error .malformed

/-- The settings of all sources, one written over the other. -/
def Sources.settings (sources : Sources) : Except ConfigFault Settings := do
  let shared ← fileSettings sources.sharedFile
  let own ← fileSettings sources.localFile
  -- the last one written is the environment, so it wins
  return (Settings.ofEnvironment sources.environment).writeAll (own.writeAll (shared.writeAll []))

/-- The configuration of some sources, if it makes sense. -/
def load (sources : Sources) : Except ConfigFault Config := do
  -- a field that cannot be converted is reported before combinations are looked at
  let config ← ofSettings (← sources.settings)
  config.check
  return config

end Config

end FtpIntake

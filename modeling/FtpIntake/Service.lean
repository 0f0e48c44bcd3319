import FtpIntake.Config
import FtpIntake.Exchange.Control

/-!
# Services

What a server goes by as long as it exists: a configuration that makes sense, and who may log in according to it.
-/

namespace FtpIntake

/-- A configuration together with the credentials that follow from it. -/
structure Service where
  config : Config
  credentials : Credentials
  deriving DecidableEq

namespace Service

/-- The service that a configuration describes. The credentials are looked at before everything else. -/
def make (config : Config) : Except ServerFault Service := do
  let credentials ← Credentials.make config.username config.password
  match config.check with
  | .ok () => return ⟨config, credentials⟩
  | .error cause => throw (.config cause)

/-- What the commands of the control connection go by. -/
def control (service : Service) : ControlSettings :=
  ⟨service.credentials, DataChannel.portRange service.config.dataPortMin service.config.dataPortMax⟩

/-- What uploads go by. -/
def store (service : Service) : StoreSettings :=
  service.config.storeSettings

end Service

end FtpIntake

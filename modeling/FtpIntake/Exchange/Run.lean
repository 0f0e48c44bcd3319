import FtpIntake.Exchange.Directory
import FtpIntake.Exchange.List
import FtpIntake.Exchange.Store

/-!
# Running commands

Which exchange each command is. The commands of the control connection are run by the connection itself and do
nothing here.
-/

namespace FtpIntake.Exchange

variable {σ : Type} [Pipeline σ]

/-- Runs a command that does not belong to the control connection. -/
def run (x : Exchange σ) (settings : StoreSettings) (command : Command) (argument : Option String) :
    Sent × Exchange σ :=
  match command with
  | .makeDirectory => x.withArgument argument makeDirectory
  | .removeDirectory => x.withArgument argument removeDirectory
  | .list form => x.list form argument
  | .changeDirectory => x.withArgument argument changeDirectory
  | .changeToParent => x.changeToParent
  | .printDirectory => x.printDirectory
  | .size => x.withArgument argument size
  | .modificationTime => x.withArgument argument modificationTime
  | .store => x.store settings argument
  | .help => x.help argument
  | .reject text => x.reject text
  | .control _ => (.ok (), x)

end FtpIntake.Exchange

import FtpIntake.Request

/-!
# Commands

The verbs that the server knows and what each of them stands for. Some commands concern the control connection
itself: login, parameters and the negotiation of a data connection. The others work on the namespace or upload.
A few are known only to be refused, each with a text of its own. Everything else is not a command at all.

The table is a list, so that what holds of every verb can be checked by going through it.
-/

namespace FtpIntake

/-- Commands that the control connection answers by itself. -/
inductive ControlCommand where
  | user
  | pass
  | quit
  | noop
  | syst
  | type
  | mode
  | stru
  | feat
  | opts
  | abor
  | stat
  | pasv
  | epsv
  | port
  | eprt
  deriving DecidableEq

/-- The three forms of a directory listing. -/
inductive ListingForm where
  /-- Lines in the style of a long directory listing. -/
  | long
  /-- Bare names. -/
  | names
  /-- Lines of machine-readable facts. -/
  | facts
  deriving DecidableEq

/-- What a verb stands for. -/
inductive Command where
  | control (command : ControlCommand)
  | makeDirectory
  | removeDirectory
  | list (form : ListingForm)
  | changeDirectory
  | changeToParent
  | printDirectory
  | size
  | modificationTime
  | store
  | help
  /-- Known and refused with the given text. -/
  | reject (text : String)
  deriving DecidableEq

namespace Command

/-- Whether a client may use the command before it has logged in. -/
def allowedBeforeLogin : Command → Bool
  | .control .user | .control .pass | .control .quit | .control .noop | .control .syst | .control .feat
  | .help => true
  | _ => false

/-- Whether the command is refused whatever its argument is. -/
def isReject : Command → Bool
  | .reject _ => true
  | _ => false

/-- Whether the command belongs to the control connection. -/
def isControl : Command → Bool
  | .control _ => true
  | _ => false

/-- The refusal of an operation that the namespace does not have. -/
def unsupported (verb : String) : Command :=
  .reject ("Operation (" ++ verb ++ ") not supported.")

/-- Every known verb with its command. No verb is listed twice. -/
def table : List (String × Command) :=
  [ ("USER", .control .user), ("PASS", .control .pass), ("QUIT", .control .quit),
    ("NOOP", .control .noop), ("SYST", .control .syst), ("TYPE", .control .type),
    ("MODE", .control .mode), ("STRU", .control .stru), ("FEAT", .control .feat),
    ("OPTS", .control .opts), ("ABOR", .control .abor), ("STAT", .control .stat),
    ("PASV", .control .pasv), ("EPSV", .control .epsv), ("PORT", .control .port),
    ("EPRT", .control .eprt),
    ("MKD", .makeDirectory), ("XMKD", .makeDirectory),
    ("RMD", .removeDirectory), ("XRMD", .removeDirectory),
    ("LIST", .list .long), ("NLST", .list .names), ("MLSD", .list .facts),
    ("CWD", .changeDirectory), ("XCWD", .changeDirectory),
    ("CDUP", .changeToParent), ("XCUP", .changeToParent),
    ("PWD", .printDirectory), ("XPWD", .printDirectory),
    ("SIZE", .size), ("MDTM", .modificationTime), ("STOR", .store), ("HELP", .help),
    ("RETR", unsupported "RETR"), ("DELE", .reject "Deletion of file system entries is not supported."),
    ("RNFR", unsupported "RNFR"), ("RNTO", unsupported "RNTO"), ("REST", unsupported "REST"),
    ("APPE", unsupported "APPE"), ("STOU", unsupported "STOU"), ("MFMT", unsupported "MFMT") ]

/-- The command of a verb in any case, or `none` for an unknown verb. -/
def ofVerb? (verb : String) : Option Command :=
  table.lookup (String.ofList (Request.upperCase verb.toList))

/-- The verbs of the commands that are served and not refused. -/
def servedVerbs : List String :=
  (table.filter fun row => !row.2.isReject).map Prod.fst

end Command

end FtpIntake

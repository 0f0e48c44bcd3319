import FtpIntake.Command
import FtpIntake.Reply

/-!
# Help

`HELP` without an argument lists the verbs that are served, in alphabetic order, eight on a line. With the name
of such a verb it shows how the command is written. A `HelpIndex` is the list of verbs that help is given on:
sorted, and each of them once.

Nothing here depends on which verbs there are. The index of the commands that are served is one value of it.
-/

namespace FtpIntake

open Text

/-- How a command is written, for the verbs that have a description. -/
def usage? : String → Option String
  | "ABOR" => some "Syntax: ABOR"
  | "CDUP" | "XCUP" => some "Syntax: CDUP"
  | "CWD" | "XCWD" => some "Syntax: CWD <sp> <pathname>"
  | "EPRT" => some "Syntax: EPRT <sp> |<net-prt>|<net-addr>|<tcp-port>|"
  | "EPSV" => some "Syntax: EPSV"
  | "FEAT" => some "Syntax: FEAT"
  | "HELP" => some "Syntax: HELP [<sp> <string>]"
  | "LIST" => some "Syntax: LIST [<sp> <pathname>]"
  | "MDTM" => some "Syntax: MDTM <sp> <pathname>"
  | "MLSD" => some "Syntax: MLSD [<sp> <pathname>]"
  | "MKD" | "XMKD" => some "Syntax: MKD <sp> <pathname>"
  | "MODE" => some "Syntax: MODE <sp> <mode-code>"
  | "NLST" => some "Syntax: NLST [<sp> <pathname>]"
  | "NOOP" => some "Syntax: NOOP"
  | "OPTS" => some "Syntax: OPTS <sp> <command> [<sp> <options>]"
  | "PASS" => some "Syntax: PASS <sp> <password>"
  | "PASV" => some "Syntax: PASV"
  | "PORT" => some "Syntax: PORT <sp> <host-port>"
  | "PWD" | "XPWD" => some "Syntax: PWD"
  | "QUIT" => some "Syntax: QUIT"
  | "RMD" | "XRMD" => some "Syntax: RMD <sp> <pathname>"
  | "SIZE" => some "Syntax: SIZE <sp> <pathname>"
  | "STAT" => some "Syntax: STAT"
  | "STOR" => some "Syntax: STOR <sp> <pathname>"
  | "STRU" => some "Syntax: STRU <sp> <structure-code>"
  | "SYST" => some "Syntax: SYST"
  | "TYPE" => some "Syntax: TYPE <sp> <type-code>"
  | "USER" => some "Syntax: USER <sp> <username>"
  | _ => none

/-- The verbs that help is given on, sorted and each once. -/
structure HelpIndex where
  verbs : List String

namespace HelpIndex

/-- Puts a verb in its place in a sorted list, unless it is there already. -/
def insertVerb (verb : String) : List String → List String
  | [] => [verb]
  | v :: vs =>
    if verb < v then verb :: v :: vs
    else if verb = v then v :: vs
    else v :: insertVerb verb vs

/-- The index of any list of verbs. -/
def ofList (verbs : List String) : HelpIndex :=
  ⟨verbs.foldr insertVerb []⟩

/-- The index of the commands that the server serves. -/
def served : HelpIndex :=
  ofList Command.servedVerbs

/-- How many verbs stand on one line of the summary. -/
def verbsPerLine : Nat := 8

/-- Cuts a list into rows of eight; the last row may be shorter. -/
def rows (verbs : List String) : List (List String) :=
  if verbs = [] then [] else verbs.take verbsPerLine :: rows (verbs.drop verbsPerLine)
termination_by verbs.length
decreasing_by
  next h =>
    have := List.length_pos_iff.2 h
    simp only [List.length_drop, verbsPerLine]
    omega

/-- The list of all verbs with a line before and after it. -/
def summary (index : HelpIndex) : String :=
  "The following commands are supported.\n" ++
    String.join ((rows index.verbs).map fun row => " ".intercalate row ++ "\n") ++ "End of help."

/-- How the command of a verb, in any case, is written, if help is given on it. -/
def usageFor? (index : HelpIndex) (verb : String) : Option String :=
  let verb := String.ofList (Request.upperCase verb.toList)
  if verb ∈ index.verbs then usage? verb else none

/-- The answer to a request for help. -/
def replyFor (index : HelpIndex) (argument : Option String) : Reply :=
  match argument.bind fun verb => index.usageFor? (String.ofList (trim verb.toList)) with
  | some usage => ⟨ReplyCode.helpMessage, usage⟩
  | none => ⟨ReplyCode.helpMessage, index.summary⟩

end HelpIndex

end FtpIntake
